import PolymeshRest.Settlements.Legs
import PolymeshRest.Transactions.Options

/-!
# Portfolios of requests

A request names a portfolio by its owner and a number, where 0 is the default portfolio.  The SDK
takes the default one without a number.  `toPortfolioId` leaves the number out for legs and for the
target of a move; `PortfoliosService.findOne` has a test of its own, and it is what finds the source
of a move and the portfolio that the other methods act on.

* `findOne`, `moveAssets`, `setCustodian`, `quitCustody`, `getTransactions` : the methods of the
  service, up to what is called on the portfolio they have found.
* `toPortfolioLike` : portfolios of legs, and `legs_toPortfolioLike`, which connects it to instances
  of `PortfolioDto`.
* `meant`, `Addressed` : the portfolio that a number stands for, and all ways to it agree.
* `addressed_iff_atLeast` : they do if the number is not negative.
-/

namespace PolymeshRest

namespace Portfolios

open Js SubmitTransaction TxOptions

/-! ### References -/

/-- `DefaultPortfolio` or `NumberedPortfolio` of the SDK. -/
inductive Portfolio where
  | default (owner : String)
  | numbered (owner : String) (id : BigNumber)
  deriving DecidableEq

/-- `PortfolioLike` of the SDK. -/
inductive PortfolioLike where
  | did (did : String)
  | numbered (identity : String) (id : BigNumber)
  deriving DecidableEq

/-- What the SDK takes a `PortfolioLike` for. -/
def PortfolioLike.portfolio : PortfolioLike → Portfolio
  | .did owner => .default owner
  | .numbered owner id => .numbered owner id

/-- What the SDK takes the number of a portfolio of an owner for, if there is one. -/
def ofOwner (owner : String) : Option BigNumber → Portfolio
  | none => .default owner
  | some id => .numbered owner id

/-- `toPortfolioId` -/
def toPortfolioId (id : BigNumber) : Option BigNumber :=
  if id.eq (.finite 0) then none else some id

/-- `toPortfolioLike` of `PortfolioDto` -/
def toPortfolioLike (did : String) (id : BigNumber) : PortfolioLike :=
  match toPortfolioId id with
  | some portfolioId => .numbered did portfolioId
  | none => .did did

/-! ### The service -/

/-- What the chain answers: `findOne` of `IdentitiesService`, and `getPortfolio`, which is rejected
or gives the portfolio that it was asked for. -/
structure Chain where
  identity : String → Except SubmitTransaction.Thrown Unit
  getPortfolio : Portfolio → Except SubmitTransaction.Thrown Unit

/-- `getPortfolio(..)` with the `catch` behind it. -/
def Chain.portfolio (chain : Chain) (portfolio : Portfolio) :
    Except SubmitTransaction.Thrown Portfolio :=
  match chain.getPortfolio portfolio with
  | .ok () => .ok portfolio
  | .error error => .error (rethrow error)

/-- `findOne` -/
def findOne (chain : Chain) (did : String) (portfolioId : Option BigNumber) :
    Except SubmitTransaction.Thrown Portfolio := do
  chain.identity did
  match portfolioId with
  | some id =>
    if id.gt 0 then chain.portfolio (.numbered did id) else chain.portfolio (.default did)
  | none => chain.portfolio (.default did)

/-- The method of a portfolio that `submit` is called with, its arguments, and the options. -/
structure Submission (μ : Type) where
  portfolio : Portfolio
  args : μ
  options : Data TxOptions.Dto

/-- `PortfolioMovement` -/
structure PortfolioMovement where
  asset : String
  amount : Option BigNumber
  memo : Option String
  nfts : Option (List BigNumber)

/-- `AssetMovementDto`, without its options. -/
structure AssetMovement where
  fromId : BigNumber
  toId : BigNumber
  items : List PortfolioMovement

/-- The arguments of `moveFunds`. -/
structure MoveFunds where
  target : Option BigNumber
  items : List PortfolioMovement

/-- `extractTxOptions`, where what it throws is an error of the application. -/
def extracted {α : Type} (params : Params α) : Except SubmitTransaction.Thrown (Extracted α) :=
  (extractTxOptions params).mapError .app

/-- `moveAssets` -/
def moveAssets (chain : Chain) (owner : String) (params : Params AssetMovement) :
    Except SubmitTransaction.Thrown (Submission MoveFunds) := do
  let ⟨options, args⟩ ← extracted params
  let fromPortfolio ← (match toPortfolioId args.fromId with
    | some fromId => findOne chain owner (some fromId)
    | none => findOne chain owner none)
  let formattedArgs : MoveFunds :=
    { target := toPortfolioId args.toId
      items := args.items.map fun ⟨asset, amount, memo, nfts⟩ => ⟨asset, amount, memo, nfts⟩ }
  return { portfolio := fromPortfolio, args := formattedArgs, options }

/-- `SetCustodianDto`, without its options. -/
structure SetCustodian where
  target : String
  expiry : Option ℕ

/-- The arguments of `setCustodian`. -/
structure SetCustodianArgs where
  targetIdentity : String
  expiry : Option ℕ

/-- `setCustodian` -/
def setCustodian (chain : Chain) (did : String) (portfolioId : BigNumber)
    (params : Params SetCustodian) :
    Except SubmitTransaction.Thrown (Submission SetCustodianArgs) := do
  let portfolio ← findOne chain did (some portfolioId)
  let ⟨options, args⟩ ← extracted params
  return { portfolio, args := { targetIdentity := args.target, expiry := args.expiry }, options }

/-- `quitCustody` -/
def quitCustody (chain : Chain) (did : String) (id : BigNumber) (transactionBaseDto : Params Unit) :
    Except SubmitTransaction.Thrown (Submission Unit) := do
  let portfolio ← findOne chain did (some id)
  let ⟨options, _⟩ ← extracted transactionBaseDto
  return { portfolio, args := (), options }

/-- The call of `getTransactionHistory`. -/
structure TransactionHistory where
  portfolio : Portfolio
  account : Option String
  ticker : Option String

/-- `getTransactions` -/
def getTransactions (chain : Chain) (did : String) (portfolioId : BigNumber)
    (account ticker : Option String) : Except SubmitTransaction.Thrown TransactionHistory := do
  let portfolio ← findOne chain did (some portfolioId)
  return { portfolio, account, ticker }

/-! ### What a number stands for -/

/-- The default portfolio has the number 0. -/
def meant (did : String) (id : BigNumber) : Portfolio :=
  if id = .finite 0 then .default did else .numbered did id

/-- Every way to a portfolio leads to the one that is meant, or to an error. -/
structure Addressed (did : String) (id : BigNumber) : Prop where
  leg : (toPortfolioLike did id).portfolio = meant did id
  target : ∀ chain params submission, moveAssets chain did params = .ok submission →
    params.args.toId = id → ofOwner did submission.args.target = meant did id
  source : ∀ chain params submission, moveAssets chain did params = .ok submission →
    params.args.fromId = id → submission.portfolio = meant did id
  found : ∀ chain portfolio, findOne chain did (some id) = .ok portfolio → portfolio = meant did id
  setCustodian : ∀ chain params submission, setCustodian chain did id params = .ok submission →
    submission.portfolio = meant did id
  quitCustody : ∀ chain params submission, quitCustody chain did id params = .ok submission →
    submission.portfolio = meant did id
  getTransactions : ∀ chain account ticker history,
    getTransactions chain did id account ticker = .ok history → history.portfolio = meant did id

variable {chain : Chain} {did : String} {id : BigNumber}

/-! ### Portfolios without a search -/

theorem ofOwner_toPortfolioId (did : String) (id : BigNumber) :
    ofOwner did (toPortfolioId id) = meant did id := by
  unfold toPortfolioId meant
  by_cases h : id = .finite 0
  · subst h
    rfl
  · have heq : id.eq (.finite 0) = false := by
      rw [← Bool.not_eq_true, BigNumber.eq_iff]
      exact fun hzero => h hzero.1
    rw [heq, if_neg h, if_neg Bool.false_ne_true]
    rfl

theorem portfolio_toPortfolioLike (did : String) (id : BigNumber) :
    (toPortfolioLike did id).portfolio = meant did id := by
  rw [← ofOwner_toPortfolioId, toPortfolioLike]
  cases toPortfolioId id <;> rfl

theorem legs_toPortfolioLike {fields : List (String × Data Legs.Dto)}
    (hdid : get fields "did" = .string did) (hid : get fields "id" = .bigNumber id) :
    Legs.toPortfolioLike (.object .portfolio fields) =
      some (match toPortfolioLike did id with
        | .did owner => .did (.string owner)
        | .numbered owner id => .numbered (.string owner) (.bigNumber id)) := by
  rw [Legs.toPortfolioLike, hdid, hid, Legs.toPortfolioId, toPortfolioLike, toPortfolioId]
  cases id.eq (.finite 0) <;> rfl

/-! ### Portfolios that are found -/

/-- The portfolio that `findOne` looks for. -/
def sought (did : String) (id : BigNumber) : Portfolio :=
  if id.gt 0 then .numbered did id else .default did

theorem Chain.portfolio_eq_ok {asked portfolio : Portfolio}
    (h : chain.portfolio asked = .ok portfolio) : portfolio = asked := by
  unfold Chain.portfolio at h
  split at h
  · exact (Except.ok.inj h).symm
  · cases h

theorem sought_of_findOne {portfolio : Portfolio}
    (h : findOne chain did (some id) = .ok portfolio) :
    portfolio = sought did id := by
  obtain ⟨-, -, h⟩ := bind_eq_ok_iff.1 h
  unfold sought
  dsimp only at h
  split_ifs at h ⊢
  · exact Chain.portfolio_eq_ok h
  · exact Chain.portfolio_eq_ok h

/-- The default portfolio is asked for without a number. -/
theorem default_of_findOne {portfolio : Portfolio} (h : findOne chain did none = .ok portfolio) :
    portfolio = .default did := by
  obtain ⟨-, -, h⟩ := bind_eq_ok_iff.1 h
  exact Chain.portfolio_eq_ok h

/-- The number 0 is the one that is sought as the default portfolio. -/
theorem sought_of_toPortfolioId {portfolio : Portfolio}
    (h : (match toPortfolioId id with
      | some fromId => findOne chain did (some fromId)
      | none => findOne chain did none) = .ok portfolio) : portfolio = sought did id := by
  unfold toPortfolioId at h
  cases hzero : id.eq (.finite 0) with
  | false =>
    rw [hzero] at h
    exact sought_of_findOne h
  | true =>
    rw [hzero] at h
    rw [default_of_findOne h, (BigNumber.eq_iff.1 hzero).1]
    rfl

theorem args_of_extracted {α : Type} {params : Params α} {made : Extracted α}
    (h : extracted params = .ok made) : made.args = params.args := by
  unfold extracted at h
  cases hmade : extractTxOptions params with
  | error error =>
    rw [hmade] at h
    cases h
  | ok options =>
    rw [hmade] at h
    cases h
    exact args_of_extractTxOptions hmade

theorem sought_of_moveAssets {params : Params AssetMovement} {submission : Submission MoveFunds}
    (h : moveAssets chain did params = .ok submission) :
    submission.portfolio = sought did params.args.fromId ∧
      submission.args.target = toPortfolioId params.args.toId := by
  obtain ⟨⟨options, args⟩, hextracted, h⟩ := bind_eq_ok_iff.1 h
  dsimp only at h
  obtain ⟨portfolio, hportfolio, h⟩ := bind_eq_ok_iff.1 h
  cases h
  have hargs : args = params.args := args_of_extracted hextracted
  rw [← hargs]
  exact ⟨sought_of_toPortfolioId hportfolio, rfl⟩

theorem sought_of_setCustodian {params : Params SetCustodian}
    {submission : Submission SetCustodianArgs}
    (h : setCustodian chain did id params = .ok submission) :
    submission.portfolio = sought did id := by
  obtain ⟨portfolio, hportfolio, h⟩ := bind_eq_ok_iff.1 h
  obtain ⟨⟨options, args⟩, -, h⟩ := bind_eq_ok_iff.1 h
  cases h
  exact sought_of_findOne hportfolio

theorem sought_of_quitCustody {params : Params Unit} {submission : Submission Unit}
    (h : quitCustody chain did id params = .ok submission) :
    submission.portfolio = sought did id := by
  obtain ⟨portfolio, hportfolio, h⟩ := bind_eq_ok_iff.1 h
  obtain ⟨⟨options, args⟩, -, h⟩ := bind_eq_ok_iff.1 h
  cases h
  exact sought_of_findOne hportfolio

theorem sought_of_getTransactions {account ticker : Option String} {history : TransactionHistory}
    (h : getTransactions chain did id account ticker = .ok history) :
    history.portfolio = sought did id := by
  obtain ⟨portfolio, hportfolio, h⟩ := bind_eq_ok_iff.1 h
  cases h
  exact sought_of_findOne hportfolio

/-! ### Agreement -/

/-- A number from 0 on is sought as it is meant, and no other one. -/
theorem sought_eq_meant_iff (did : String) (id : BigNumber) :
    sought did id = meant did id ↔ id.AtLeast 0 := by
  unfold sought meant
  cases id with
  | nan => simp [BigNumber.gt, BigNumber.AtLeast]
  | infinity negative => cases negative <;> simp [BigNumber.gt, BigNumber.AtLeast]
  | finite q =>
    obtain hneg | rfl | hpos := lt_trichotomy q 0
    · simp [BigNumber.gt, BigNumber.AtLeast, hneg.not_gt, hneg.ne, hneg]
    · simp [BigNumber.gt, BigNumber.AtLeast]
    · simp [BigNumber.gt, BigNumber.AtLeast, hpos, hpos.ne', hpos.le]

/-- A chain that knows every identity and every portfolio. -/
def allKnown : Chain := ⟨fun _ => .ok (), fun _ => .ok ()⟩

theorem findOne_allKnown (did : String) (id : BigNumber) :
    findOne allKnown did (some id) = .ok (sought did id) := by
  unfold sought
  cases hgt : id.gt 0 with
  | true => simp [findOne, hgt, allKnown, Chain.portfolio, Bind.bind, Except.bind]
  | false => simp [findOne, hgt, allKnown, Chain.portfolio, Bind.bind, Except.bind]

/-- **All ways to a portfolio agree** if its number is not negative. -/
theorem addressed_iff_atLeast (did : String) (id : BigNumber) :
    Addressed did id ↔ id.AtLeast 0 := by
  rw [← sought_eq_meant_iff did]
  constructor
  · intro h
    -- where every portfolio is known, `findOne` gives the one that is sought
    exact h.found allKnown _ (findOne_allKnown did id)
  · intro h
    exact
      { leg := portfolio_toPortfolioLike did id
        target := fun chain params submission hmoved hid => by
          rw [(sought_of_moveAssets hmoved).2, hid, ofOwner_toPortfolioId]
        source := fun chain params submission hmoved hid => by
          rw [(sought_of_moveAssets hmoved).1, hid, h]
        found := fun chain portfolio hfound => (sought_of_findOne hfound).trans h
        setCustodian := fun chain params submission hset => (sought_of_setCustodian hset).trans h
        quitCustody := fun chain params submission hquit => (sought_of_quitCustody hquit).trans h
        getTransactions := fun chain account ticker history hhistory =>
          (sought_of_getTransactions hhistory).trans h }

/-- The owner of the portfolios of an example. -/
def exampleDid : String := "0x0600000000000000000000000000000000000000000000000000000000000000"

/-- A negative number is accepted, and found as the default portfolio. -/
theorem not_addressed_negative :
    Common.isDid (.string exampleDid : Data Legs.Dto) = true ∧
      Common.isBigNumber {} (.bigNumber (.finite (-1)) : Data Legs.Dto) = true ∧
        ¬Addressed exampleDid (.finite (-1)) := by
  refine ⟨by decide +kernel, rfl, fun h => ?_⟩
  have hfound := h.found allKnown (.default exampleDid) rfl
  exact absurd hfound (by decide)

end Portfolios

end PolymeshRest
