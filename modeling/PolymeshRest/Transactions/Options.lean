import PolymeshRest.Common.Decorators
import PolymeshRest.Common.Errors
import PolymeshRest.Js.ClassTransformer
import PolymeshRest.Js.ClassValidator
import PolymeshRest.Js.ImplicitConversion
import PolymeshRest.Transactions.Submit

/-!
# Options of a transaction request

A request that makes a transaction tells in `options` how it is processed, or in three deprecated
fields next to it.  `extractTxOptions` reads either from the accepted request, and
`WebhookResponseCodeInterceptor` tells from the request as it was sent whether a callback was asked
for, before anything has been converted or checked.

* `accepted` : the request, if it passes; what the rest of it becomes is a parameter.
* `extractTxOptions`, `intercept` : the two functions.
* `Agrees` : the response code fits the process mode, and mixed requests are rejected.
* `Settled` : the requests for which that is so; `responses_agree_iff`.
-/

namespace PolymeshRest

namespace TxOptions

open Js SubmitTransaction

/-! ### The classes -/

/-- `TransactionOptionsDto`, `MortalityDto`, and the class of plain objects. -/
inductive Dto where
  | plain
  | transactionOptions
  | mortality
  deriving DecidableEq, Repr

/-- The value of a process mode. -/
def modeValue : ProcessMode → String
  | .submit => "submit"
  | .submitWithCallback => "submitWithCallback"
  | .offline => "offline"
  | .dryRun => "dryRun"
  | .AMQP => "AMQP"

/-- The values of `ProcessMode`. -/
def processModes : List String :=
  [ProcessMode.submit, .submitWithCallback, .offline, .dryRun, .AMQP].map modeValue

/-- `webhookUrl` and `metadata` are checked under a condition, by `acceptsConditional`. -/
instance : Decorated Dto where
  properties
    | .transactionOptions =>
      [{ name := "signer", checks := [Common.isString] },
        { name := "processMode", checks := [Common.isEnum processModes] },
        { name := "mortality", optional := true, nested := true },
        { name := "nonce", optional := true, checks := [Common.isBigNumber {}] },
        { name := "webhookUrl" }, { name := "metadata" }]
    | .mortality =>
      [{ name := "lifetime", optional := true, checks := [Common.isBigNumber {}] },
        { name := "immortal", checks := [Common.isBoolean] }]
    | .plain => []

/-- What the application is built with: `isURL` of `class-validator`, `String` for a number and for
an object, and `new BigNumber(value)`; the last two may throw. -/
structure Library extends Texts Dto where
  isUrl : String → Bool
  bigNumber : Data Dto → Option BigNumber

namespace Library

variable (library : Library)

/-- `@IsUrl()` -/
def acceptsUrl : Data Dto → Bool
  | .string s => library.isUrl s
  | _ => false

/-- How the properties of an instance are converted. -/
def conversion : Dto → String → Conversion Dto
  | .transactionOptions, "signer" | .transactionOptions, "processMode"
  | .transactionOptions, "webhookUrl" => { transform := library.toText }
  | .transactionOptions, "mortality" => { type := some (.class .mortality) }
  | .transactionOptions, "nonce" | .mortality, "lifetime" =>
    { transform := Common.toBigNumber library.bigNumber }
  | .mortality, "immortal" => { transform := toBoolean }
  | _, _ => {}

end Library

variable (library : Library)

/-! ### Requests -/

/-- The body of a request, whose other properties are the `rest`. -/
structure Body (ρ : Type) where
  signer : Option Json := none
  webhookUrl : Option Json := none
  dryRun : Option Json := none
  options : Option Json := none
  rest : ρ

/-- The instance that the handler is called with. -/
structure Params (α : Type) where
  signer : Data Dto
  webhookUrl : Data Dto
  dryRun : Data Dto
  options : Data Dto
  args : α

/-- What is read of a property that may be missing. -/
def sent (value : Option Json) : Data Dto := (value.map (Json.toData .plain)).getD .undefined

/-- `@ValidateIf(({ processMode }) => processMode === ProcessMode.SubmitWithCallback)`,
`@IsString()` and `@IsUrl()` of `webhookUrl` -/
def acceptsWebhookUrl (fields : List (String × Data Dto)) : Bool :=
  match get fields "processMode" with
  | .string mode =>
    mode ≠ modeValue .submitWithCallback || library.acceptsUrl (get fields "webhookUrl")
  | _ => true

/-- `@IsObject()` -/
def isObject : Data Dto → Bool
  | .object _ _ | .bigNumber _ => true
  | _ => false

/-- `@ValidateIf(({ processMode }) => processMode === ProcessMode.Offline)`, `@IsOptional()` and
`@IsObject()` of `metadata` -/
def acceptsMetadata (fields : List (String × Data Dto)) : Bool :=
  match get fields "processMode" with
  | .string mode =>
    mode ≠ modeValue .offline || (get fields "metadata").isNullish ||
      isObject (get fields "metadata")
  | _ => true

mutual

/-- The properties that are checked under a condition. -/
def acceptsConditional : Data Dto → Bool
  | .array items => acceptsConditionalAll items
  | .object .transactionOptions fields => acceptsWebhookUrl library fields && acceptsMetadata fields
  | _ => true

def acceptsConditionalAll : List (Data Dto) → Bool
  | [] => true
  | item :: items => acceptsConditional item && acceptsConditionalAll items

end

/-- The decorators of `TransactionBaseDto`. -/
def accepts {α : Type} (params : Params α) : Bool :=
  (params.options.isNullish ||
      nested .refuse params.options && acceptsConditional library params.options) &&
    (params.signer.isNullish || Common.isString params.signer) &&
      (params.webhookUrl.isNullish ||
        Common.isString params.webhookUrl && library.acceptsUrl params.webhookUrl) &&
        (params.dryRun.isNullish || Common.isBoolean params.dryRun)

variable {ρ α : Type} (readArgs : ρ → Option α)

/-- The instance that is made of a body, if it can be made. -/
def instanceOf (body : Body ρ) : Option (Params α) := do
  let signer ← library.toText (sent body.signer)
  let webhookUrl ← library.toText (sent body.webhookUrl)
  let dryRun ← toBoolean (sent body.dryRun)
  let options ← instantiate library.conversion (.class .transactionOptions) (sent body.options)
  let args ← readArgs body.rest
  return { signer, webhookUrl, dryRun, options, args }

/-- The instance that the handler is called with, if the body is accepted. -/
def accepted (body : Body ρ) : Option (Params α) :=
  ((instanceOf library readArgs body).filter (accepts library)).map fun params =>
    { params with options := whitelist params.options }

/-! ### The two functions -/

/-- What `extractTxOptions` returns. -/
structure Extracted (α : Type) where
  options : Data Dto
  args : α

/-- `extractTxOptions` -/
def extractTxOptions (params : Params α) : Except AppError (Extracted α) :=
  -- the fields are missing in the array that is searched
  let deprecatedParams := ([] : List (Data Dto)).any Data.isTruthy
  if deprecatedParams && params.options.isTruthy then
    .error (.validation ("\"signer\", \"webhookUrl\", \"dryRun\" are deprecated and should be" ++
      " nested in \"options\". These fields are mutually exclusive with \"options\""))
  else if params.options.isTruthy then .ok { options := params.options, args := params.args }
  else if !params.signer.isTruthy then
    .error (.validation "\"signer\" must be present in transaction requests")
  else
    let processMode : ProcessMode :=
      if params.dryRun.isTruthy then .dryRun
      else if params.webhookUrl.isTruthy then .submitWithCallback
      else .submit
    .ok { options := .object .plain [("signer", params.signer), ("webhookUrl", params.webhookUrl),
            ("processMode", .string (modeValue processMode))]
          args := params.args }

/-- `intercept` of `WebhookResponseCodeInterceptor`: the code of the response. -/
def intercept (statusCode : ℕ) (body : Body ρ) : ℕ :=
  if statusCode = 201 && (sent body.webhookUrl).isTruthy then 202 else statusCode

/-! ### What they are for -/

/-- `options.processMode` -/
def processModeOf : Data Dto → Data Dto
  | .object _ fields => get fields "processMode"
  | _ => .undefined

/-- Which values of a deprecated field count as given: what counts as true does. -/
structure Reading where
  given : Data Dto → Bool
  given_of_isTruthy : ∀ value, value.isTruthy = true → given value = true

/-- `!!param` -/
def Reading.truthy : Reading := ⟨Data.isTruthy, fun _ h => h⟩

/-- The values of the deprecated fields. -/
def Params.deprecated (params : Params α) : List (Data Dto) :=
  [params.signer, params.webhookUrl, params.dryRun]

variable (reading : Reading)

/-- The code of the response fits the process mode, and a mixed request is rejected. -/
structure Agrees (body : Body ρ) : Prop where
  code : ∀ params extracted, accepted library readArgs body = some params →
    extractTxOptions params = .ok extracted →
      (intercept 201 body = 202 ↔
        processModeOf extracted.options = .string (modeValue .submitWithCallback))
  exclusive : ∀ params, accepted library readArgs body = some params →
    params.options.isTruthy = true → params.deprecated.any reading.given = true →
      ∃ error, extractTxOptions params = .error error

/-- With `options` there is no deprecated field, and no callback is asked for; without them a
request that has a signer does not combine `dryRun` with a `webhookUrl`. -/
def Settled (params : Params α) : Prop :=
  if params.options.isTruthy then
    params.deprecated.any reading.given = false ∧
      processModeOf params.options ≠ .string (modeValue .submitWithCallback)
  else
    params.signer.isTruthy = true →
      ¬(params.dryRun.isTruthy = true ∧ params.webhookUrl.isTruthy = true)

/-- A URL has a host with a domain, which an empty text, a zero and `false` have not. -/
structure Library.Documented : Prop where
  empty : library.isUrl "" = false
  zero : library.isUrl (library.numberText 0) = false
  no : library.isUrl "false" = false

variable {library readArgs} {body : Body ρ} {params : Params α}

/-! ### Accepted requests -/

theorem exists_instanceOf (h : accepted library readArgs body = some params) :
    ∃ made, instanceOf library readArgs body = some made ∧ accepts library made = true ∧
      params = { made with options := whitelist made.options } := by
  obtain ⟨made, hmade, rfl⟩ := Option.map_eq_some_iff.1 h
  obtain ⟨hmade, haccepts⟩ := Option.filter_eq_some_iff.1 hmade
  exact ⟨made, hmade, haccepts, rfl⟩

theorem webhookUrl_of_accepted (h : accepted library readArgs body = some params) :
    library.toText (sent body.webhookUrl) = some params.webhookUrl ∧
      (params.webhookUrl.isNullish = true ∨
        ∃ url, params.webhookUrl = .string url ∧ library.isUrl url = true) := by
  obtain ⟨made, hmade, haccepts, rfl⟩ := exists_instanceOf h
  constructor
  · simp only [instanceOf, Option.bind_eq_bind, Option.bind_eq_some_iff] at hmade
    obtain ⟨signer, -, webhookUrl, hwebhook, dryRun, -, options, -, args, -, hmade⟩ := hmade
    cases hmade
    exact hwebhook
  · simp only [accepts, Bool.and_eq_true, Bool.or_eq_true] at haccepts
    obtain ⟨⟨-, hwebhook⟩, -⟩ := haccepts
    refine hwebhook.imp_right fun hurl => ?_
    cases hvalue : made.webhookUrl with
    | string url =>
      rw [hvalue] at hurl
      exact ⟨url, rfl, hurl.2⟩
    | _ =>
      rw [hvalue] at hurl
      cases hurl.1

/-- What does not count as true is no URL. -/
theorem isUrl_of_not_isTruthy (hdocumented : library.Documented) {value : Data Dto} {text : String}
    (h : value.isTruthy = false) (htext : library.text value = some text) :
    library.isUrl text = false := by
  cases value with
  | bool b =>
    cases h
    cases htext
    exact hdocumented.no
  | number n =>
    have hn : n = 0 := by simpa [Data.isTruthy] using h
    cases htext
    rw [hn]
    exact hdocumented.zero
  | string s =>
    have hs : s = "" := by simpa [Data.isTruthy] using h
    cases htext
    rw [hs]
    exact hdocumented.empty
  | undefined | null | bigNumber b | array items => cases htext
  | object cls fields => cases h

/-- A `webhookUrl` that is accepted counts as true before the conversion if it does after it. -/
theorem isTruthy_webhookUrl (hdocumented : library.Documented)
    (h : accepted library readArgs body = some params) :
    (sent body.webhookUrl).isTruthy = params.webhookUrl.isTruthy := by
  obtain ⟨hmade, hurl⟩ := webhookUrl_of_accepted h
  obtain ⟨-, hsame⟩ | ⟨items, hitems⟩ | ⟨text, htext, hvalue⟩ := toText_cases hmade
  · rw [hsame]
  · rw [hitems] at hurl
    simp [Data.isNullish] at hurl
  · rw [hvalue] at hurl ⊢
    have hurl : library.isUrl text = true := by simpa [Data.isNullish] using hurl
    have hne : text ≠ "" := by
      rintro rfl
      rw [hdocumented.empty] at hurl
      cases hurl
    have hsent : (sent body.webhookUrl).isTruthy = true := by
      by_contra hfalse
      rw [isUrl_of_not_isTruthy hdocumented (by simpa using hfalse) htext] at hurl
      cases hurl
    rw [hsent]
    exact (decide_eq_true hne).symm

/-! ### Extracted options -/

theorem extractTxOptions_of_options (h : params.options.isTruthy = true) :
    extractTxOptions params = .ok ⟨params.options, params.args⟩ := by
  simp [extractTxOptions, h]

theorem extractTxOptions_of_no_signer (h : params.options.isTruthy = false)
    (hsigner : params.signer.isTruthy = false) :
    extractTxOptions params =
      .error (.validation "\"signer\" must be present in transaction requests") := by
  simp [extractTxOptions, h, hsigner]

theorem extractTxOptions_of_signer (h : params.options.isTruthy = false)
    (hsigner : params.signer.isTruthy = true) :
    ∃ options, extractTxOptions params = .ok ⟨options, params.args⟩ ∧
      (processModeOf options = .string (modeValue .submitWithCallback) ↔
        params.dryRun.isTruthy = false ∧ params.webhookUrl.isTruthy = true) := by
  refine ⟨_, by simp only [extractTxOptions, h, hsigner]; rfl, ?_⟩
  have hmode : ∀ mode : Data Dto, processModeOf (.object .plain [("signer", params.signer),
      ("webhookUrl", params.webhookUrl), ("processMode", mode)]) = mode := by
    intro mode
    simp [processModeOf, Js.get, List.lookup_cons]
  rw [hmode, Data.string.injEq]
  cases params.dryRun.isTruthy <;> cases params.webhookUrl.isTruthy <;> decide

theorem args_of_extractTxOptions {extracted : Extracted α}
    (h : extractTxOptions params = .ok extracted) : extracted.args = params.args := by
  cases hoptions : params.options.isTruthy with
  | true =>
    rw [extractTxOptions_of_options hoptions] at h
    rw [← Except.ok.inj h]
  | false =>
    cases hsigner : params.signer.isTruthy with
    | true =>
      obtain ⟨options, hextracted, -⟩ := extractTxOptions_of_signer hoptions hsigner
      rw [hextracted] at h
      rw [← Except.ok.inj h]
    | false =>
      rw [extractTxOptions_of_no_signer hoptions hsigner] at h
      cases h

theorem intercept_eq_iff : intercept 201 body = 202 ↔ (sent body.webhookUrl).isTruthy = true := by
  unfold intercept
  cases (sent body.webhookUrl).isTruthy <;> decide

/-! ### Agreement -/

/-- Accepted options: they are extracted as they are. -/
theorem settled_iff_of_options (hdocumented : library.Documented)
    (h : accepted library readArgs body = some params) (hoptions : params.options.isTruthy = true) :
    Settled reading params ↔
      (intercept 201 body = 202 ↔
        processModeOf params.options = .string (modeValue .submitWithCallback)) ∧
        params.deprecated.any reading.given = false := by
  rw [Settled, if_pos hoptions, intercept_eq_iff, isTruthy_webhookUrl hdocumented h, and_comm]
  refine and_congr_left fun hnone => ?_
  -- a `webhookUrl` that counts as true is given
  have hwebhook : params.webhookUrl.isTruthy = false := by
    by_contra htruthy
    have hgiven := reading.given_of_isTruthy _ (by simpa using htruthy)
    simp [Params.deprecated, hgiven] at hnone
  rw [hwebhook]
  simp

/-- Accepted fields next to no options: a callback is asked for unless it is a dry run. -/
theorem settled_iff_of_signer (hdocumented : library.Documented)
    (h : accepted library readArgs body = some params) (hoptions : params.options.isTruthy = false)
    (hsigner : params.signer.isTruthy = true) :
    Settled reading params ↔
      (intercept 201 body = 202 ↔
        params.dryRun.isTruthy = false ∧ params.webhookUrl.isTruthy = true) := by
  rw [Settled, hoptions, if_neg Bool.false_ne_true, intercept_eq_iff,
    isTruthy_webhookUrl hdocumented h]
  cases params.dryRun.isTruthy <;> cases params.webhookUrl.isTruthy <;> simp [hsigner]

/-- **The response code fits the process mode**, and mixed requests are rejected, if the request has
`options` alone and they ask for no callback, or has no `options` and does not combine `dryRun`
with a `webhookUrl`. -/
theorem responses_agree_iff (hdocumented : library.Documented) (readArgs : ρ → Option α)
    (reading : Reading) (body : Body ρ) :
    Agrees library readArgs reading body ↔
      ∀ params, accepted library readArgs body = some params → Settled reading params := by
  constructor
  · intro hagrees params h
    cases hoptions : params.options.isTruthy with
    | true =>
      rw [settled_iff_of_options reading hdocumented h hoptions]
      refine ⟨hagrees.code params _ h (extractTxOptions_of_options hoptions), ?_⟩
      by_contra hmixed
      obtain ⟨error, herror⟩ := hagrees.exclusive params h hoptions (by simpa using hmixed)
      rw [extractTxOptions_of_options hoptions] at herror
      cases herror
    | false =>
      cases hsigner : params.signer.isTruthy with
      | true =>
        rw [settled_iff_of_signer reading hdocumented h hoptions hsigner]
        obtain ⟨options, hextracted, hmode⟩ := extractTxOptions_of_signer hoptions hsigner
        rw [← hmode]
        exact hagrees.code params _ h hextracted
      | false => simp [Settled, hoptions, hsigner]
  · intro hsettled
    refine ⟨fun params extracted h hextracted => ?_, fun params h hoptions hmixed => ?_⟩
    · have hparams := hsettled params h
      cases hoptions : params.options.isTruthy with
      | true =>
        rw [extractTxOptions_of_options hoptions] at hextracted
        cases hextracted
        exact ((settled_iff_of_options reading hdocumented h hoptions).1 hparams).1
      | false =>
        cases hsigner : params.signer.isTruthy with
        | true =>
          obtain ⟨options, hoptions', hmode⟩ := extractTxOptions_of_signer hoptions hsigner
          rw [hoptions'] at hextracted
          cases hextracted
          rw [hmode]
          exact (settled_iff_of_signer reading hdocumented h hoptions hsigner).1 hparams
        | false =>
          rw [extractTxOptions_of_no_signer hoptions hsigner] at hextracted
          cases hextracted
    · have hnone :=
        ((settled_iff_of_options reading hdocumented h hoptions).1 (hsettled params h)).2
      rw [hmixed] at hnone
      cases hnone

/-- A library in which a URL is a text with a dot. -/
def dottedUrls : Library where
  isUrl s := s.toList.contains '.'
  numberText n := n.num.repr
  objectText _ := some "[object Object]"
  bigNumber
    | .number n => some (.finite n)
    | _ => some .nan

/-- The body that asks for a callback with the deprecated fields. -/
def deprecatedBody : Body Unit where
  signer := some (.string "alice")
  webhookUrl := some (.string "https://example.com/hook")
  rest := ()

/-- The body that asks for a callback with `options`. -/
def callbackBody : Body Unit where
  options := some (.object [("signer", .string "alice"),
    ("processMode", .string "submitWithCallback"),
    ("webhookUrl", .string "https://example.com/hook")])
  rest := ()

/-- The body that has two signers. -/
def mixedBody : Body Unit where
  signer := some (.string "bob")
  options := some (.object [("signer", .string "alice"), ("processMode", .string "submit")])
  rest := ()

theorem dottedUrls_documented : dottedUrls.Documented := ⟨by decide, by decide, by decide⟩

theorem agrees_deprecatedBody : Agrees dottedUrls some .truthy deprecatedBody := by
  refine (responses_agree_iff dottedUrls_documented some .truthy deprecatedBody).2 ?_
  intro params h
  have hmade : accepted dottedUrls some deprecatedBody = some ⟨.string "alice",
      .string "https://example.com/hook", .undefined, .undefined, ()⟩ := by
    rfl
  rw [hmade] at h
  cases h
  simp [Settled, Data.isTruthy]

/-- With `options` the code stays, and mixed requests are not rejected. -/
theorem not_agrees : ¬(Agrees dottedUrls some .truthy callbackBody ∨
    Agrees dottedUrls some .truthy mixedBody) := by
  rintro (h | h)
  · have hcode := (h.code _ _ rfl rfl).2 rfl
    exact absurd hcode (by decide)
  · obtain ⟨error, herror⟩ := h.exclusive _ rfl rfl rfl
    cases herror

end TxOptions

end PolymeshRest
