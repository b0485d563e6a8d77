import Tokengine.Relay.Attempts

/-! The billing of a request that was retried. The convention of a usage that does not name one is that of the final
request format, and the record keeps traces of the formats of failed attempts: the Claude adaptor sets the final
format for good, and a channel that records no conversion inherits the last one. -/

namespace Tokengine.Relay

section Formats

variable {β : Type} {overrideError : String → LastError} {info info' after : RelayInfo β} {route : Route β}
  {attempt : Attempt β}

def Route.ownFormat : Route β → Option RelayFormat
  | .passThrough => none
  | .form req => guessRelayFormatFromRequest req
  | .converted req _ => guessRelayFormatFromRequest req
  | .viaResponses _ _ req =>
    some ((req.toOption.bind guessRelayFormatFromRequest).getD .openAIResponses)

def Attempt.answersAsClaude (attempt : Attempt β) (route : Route β) : Bool :=
  attempt.claudeResponse && route.callsDoResponse

theorem last_appendRequestConversion (format : RelayFormat) :
    (info.appendRequestConversion format).requestConversionChain.getLast? = some format := by
  unfold RelayInfo.appendRequestConversion
  split
  next last => exact last
  · simp

theorem last_appendRequestConversionFromRequest (req : RequestType) :
    (info.appendRequestConversionFromRequest req).requestConversionChain.getLast? =
      (guessRelayFormatFromRequest req).or info.requestConversionChain.getLast? := by
  unfold RelayInfo.appendRequestConversionFromRequest
  cases guessRelayFormatFromRequest req with
  | none => rfl
  | some format => rw [last_appendRequestConversion]; rfl

def RelayInfo.pricing (info : RelayInfo β) : RelayInfo β :=
  { info with
    requestConversionChain := []
    finalRequestRelayFormat := none
    retryIndex := 0
    lastError := none
    runtimeHeadersOverride := .empty
    useRuntimeHeadersOverride := false }

structure Prepares (info after : RelayInfo β) : Prop where
  pricing : after.pricing = info.pricing
  final : after.finalRequestRelayFormat = info.finalRequestRelayFormat

theorem prepares_appendRequestConversion (format : RelayFormat) : Prepares info (info.appendRequestConversion format) := by
  unfold RelayInfo.appendRequestConversion
  split <;> exact ⟨rfl, rfl⟩

theorem prepares_appendRequestConversionFromRequest (req : RequestType) :
    Prepares info (info.appendRequestConversionFromRequest req) := by
  unfold RelayInfo.appendRequestConversionFromRequest
  split
  · exact ⟨rfl, rfl⟩
  · exact prepares_appendRequestConversion _

theorem Prepares.trans {middle : RelayInfo β} (first : Prepares info middle) (second : Prepares middle after) :
    Prepares info after := ⟨second.pricing.trans first.pricing, second.final.trans first.final⟩

theorem overrideBody_prepares (body : β) : Prepares info (overrideBody overrideError info body).1 ∧
      (overrideBody overrideError info body).1.requestConversionChain = info.requestConversionChain := by
  unfold overrideBody
  split
  · exact ⟨⟨rfl, rfl⟩, rfl⟩
  next edited =>
  unfold RelayInfo.applyParamOverrideWithRelayInfo at edited
  split at edited
  · cases edited
    exact ⟨⟨rfl, rfl⟩, rfl⟩
  cases applied : applyParamOverride body info.buildParamOverrideContext info.getParamOverrideMap with
  | error => rw [applied] at edited; cases edited
  | ok =>
    rw [applied] at edited
    cases edited
    exact ⟨⟨rfl, rfl⟩, rfl⟩

theorem responsesRequest_prepares (rewritten : Except LastError Unit) (req : Except LastError RequestType) :
    Prepares info (responsesRequest info rewritten req).1 := by
  unfold responsesRequest
  split
  · exact ⟨rfl, rfl⟩
  · split
    · exact prepares_appendRequestConversion _
    · exact (prepares_appendRequestConversion _).trans (prepares_appendRequestConversionFromRequest _)

theorem prepare_prepares (route : Route β) : Prepares info (route.prepare overrideError info).1 := by
  cases route with
  | passThrough => exact ⟨rfl, rfl⟩
  | form req => exact prepares_appendRequestConversionFromRequest req
  | converted req body =>
    exact (prepares_appendRequestConversionFromRequest req).trans (overrideBody_prepares body).1
  | viaResponses chat rewritten req =>
    have overridden := (@overrideBody_prepares _ overrideError info chat).1
    simp only [Route.prepare]
    generalize overrideBody overrideError info chat = outcome at overridden ⊢
    rcases outcome with ⟨middle, _ | _⟩
    · exact overridden
    · exact overridden.trans (responsesRequest_prepares rewritten req)

/-- A request that has been prepared ends in the format it records, or in the one that was recorded before. -/
theorem prepare_last (route : Route β) (prepared : (route.prepare overrideError info).2 = .ok ()) :
    (route.prepare overrideError info).1.requestConversionChain.getLast? =
      route.ownFormat.or info.requestConversionChain.getLast? := by
  cases route with
  | passThrough => rfl
  | form req => exact last_appendRequestConversionFromRequest req
  | converted req body =>
    have chain := (@overrideBody_prepares _ overrideError
      (info.appendRequestConversionFromRequest req) body).2
    exact (congrArg List.getLast? chain).trans (last_appendRequestConversionFromRequest req)
  | viaResponses chat rewritten req =>
    simp only [Route.prepare] at prepared ⊢
    generalize overrideBody overrideError info chat = outcome at prepared ⊢
    rcases outcome with ⟨middle, _ | _⟩
    · cases prepared
    unfold responsesRequest at prepared ⊢
    cases rewritten with
    | error e => cases prepared
    | ok val =>
      cases req with
      | error e => cases prepared
      | ok req =>
        rw [last_appendRequestConversionFromRequest, last_appendRequestConversion]
        simp only [Route.ownFormat, Except.toOption, Option.bind_some]
        cases guessRelayFormatFromRequest req <;> rfl

structure Answered (attempt : Attempt β) (info after : RelayInfo β) (route : Route β) : Prop where
  conversion : attempt.conversion = .ok route
  pricing : after.pricing = (addOtherRatios (addOtherRatios (attempt.begin info) attempt.conversionRatios)
    attempt.responseRatios).pricing
  final : after.finalRequestRelayFormat =
    if attempt.answersAsClaude route then some .claude else info.finalRequestRelayFormat
  last : after.requestConversionChain.getLast? = route.ownFormat.or info.requestConversionChain.getLast?

theorem receive_pricing (attempt : Attempt β) (route : Route β) (info : RelayInfo β) :
    (attempt.receive route info).pricing = addOtherRatios info.pricing attempt.responseRatios := by
  unfold Attempt.receive
  split <;> rfl

theorem run_answered {usage : Option Usage} (answered : (attempt.run overrideError info).outcome = .ok usage) :
    ∃ route, Answered attempt info (attempt.run overrideError info).info route := by
  unfold Attempt.run at answered ⊢
  cases conversion : attempt.conversion with
  | error e => simp [conversion] at answered
  | ok route =>
    simp only [conversion] at answered ⊢
    have prepares := @prepare_prepares _ overrideError
      (addOtherRatios (attempt.begin info) attempt.conversionRatios) route
    have last := @prepare_last _ overrideError
      (addOtherRatios (attempt.begin info) attempt.conversionRatios) route
    generalize route.prepare overrideError _ = outcome at answered prepares last ⊢
    rcases outcome with ⟨prepared, _ | _⟩
    · cases answered
    cases sent : attempt.request with
    | error e => simp [sent] at answered
    | ok val =>
      refine ⟨route, conversion, ?_, ?_, ?_⟩
      · simp only
        rw [receive_pricing, prepares.pricing]
        rfl
      · simp only [Attempt.receive, Attempt.answersAsClaude]
        split
        next claude => exact (if_pos claude).symm
        next other => exact prepares.final.trans (if_neg other).symm
      · simp only [Attempt.receive]
        have chain := last rfl
        split <;> exact chain

structure OfRequest (req : RelayRequest) (info : RelayInfo β) : Prop where
  originModelName : info.originModelName = req.originModelName
  requestURLPath : info.requestURLPath = req.requestURLPath
  requestHeaders : info.requestHeaders = req.requestHeaders
  isChannelTest : info.isChannelTest = req.isChannelTest
  relayFormat : info.relayFormat = req.relayFormat
  estimatePromptTokens : info.estimatePromptTokens = req.estimatePromptTokens
  responsesUsageInfo : info.responsesUsageInfo = req.responsesUsageInfo
  price : { info.priceData with groupRatio := 0, otherRatios := .empty } =
    { req.priceData with groupRatio := 0, otherRatios := .empty }
  final : info.finalRequestRelayFormat = none ∨ info.finalRequestRelayFormat = some .claude

variable {req : RelayRequest} {direct : RelayInfo β}

theorem ofRequest_genRelayInfo (req : RelayRequest) : OfRequest req (genRelayInfo req : RelayInfo β) := by
  unfold genRelayInfo RelayInfo.initRequestConversionChain
  split <;> exact ⟨rfl, rfl, rfl, rfl, rfl, rfl, rfl, rfl, Or.inl rfl⟩

variable (of : OfRequest req info)

include of in
theorem OfRequest.of_pricing (pricing : after.pricing = info.pricing)
    (final : after.finalRequestRelayFormat = none ∨ after.finalRequestRelayFormat = some .claude) :
    OfRequest req after := by
  simp only [RelayInfo.pricing, RelayInfo.mk.injEq] at pricing
  obtain ⟨name, path, headers, test, format, tokens, price, usage, _⟩ := pricing
  refine ⟨name.trans of.1, path.trans of.2, headers.trans of.3, test.trans of.4, format.trans of.5, tokens.trans of.6,
    usage.trans of.7, ?_, final⟩
  rw [price]
  exact of.price

theorem addOtherRatios_price (ratios : List (String × Rat)) (price : PriceData) :
    ({ ratios.foldl PriceData.addOtherRatio price with groupRatio := 0, otherRatios := .empty } : PriceData) =
      { price with groupRatio := 0, otherRatios := .empty } := by
  induction ratios generalizing price with
  | nil => rfl
  | cons entry entries ih =>
    rw [List.foldl_cons, ih]
    unfold PriceData.addOtherRatio
    split <;> rfl

include of

theorem OfRequest.addOtherRatios (ratios : List (String × Rat)) : OfRequest req (Relay.addOtherRatios info ratios) :=
  { of with price := (addOtherRatios_price ratios info.priceData).trans of.price }

theorem OfRequest.begin (attempt : Attempt β) : OfRequest req (attempt.begin info) :=
  { of with price := of.price }

theorem OfRequest.run (attempt : Attempt β) : OfRequest req (attempt.run overrideError info).info := by
  have started : OfRequest req (Relay.addOtherRatios (attempt.begin info) attempt.conversionRatios) :=
    (of.begin attempt).addOtherRatios _
  unfold Attempt.run
  cases attempt.conversion with
  | error e => exact started
  | ok route =>
    have prepares := @prepare_prepares _ overrideError
      (Relay.addOtherRatios (attempt.begin info) attempt.conversionRatios) route
    dsimp only
    generalize route.prepare overrideError _ = outcome at prepares ⊢
    rcases outcome with ⟨prepared, _ | _⟩
    · exact started.of_pricing prepares.pricing (prepares.final ▸ started.final)
    have ready : OfRequest req prepared := started.of_pricing prepares.pricing (prepares.final ▸ started.final)
    cases attempt.request with
    | error e => exact ready
    | ok val =>
      dsimp only [Attempt.receive]
      split
      · have claude : OfRequest req { prepared with finalRequestRelayFormat := some .claude } :=
          { ready with final := Or.inr rfl }
        exact claude.addOtherRatios _
      · exact ready.addOtherRatios _

theorem OfRequest.tryChannel {next : RelayInfo β}
    (failed : Relay.tryChannel overrideError info attempt = some next) : OfRequest req next := by
  have ran := @OfRequest.run β overrideError info req of attempt
  unfold Relay.tryChannel at failed
  split at failed
  · cases failed
    exact { ran with }
  · cases failed

omit of

/-! The price of the answer. -/

theorem usageSemantic_iff (usage : Option Usage) : usageSemanticFromUsage info usage = usageSemanticFromUsage info' usage ↔
      (usage.map Usage.usageSemantic).getD "" ≠ "" ∨
        (info.getFinalRequestRelayFormat = some .claude ↔ info'.getFinalRequestRelayFormat = some .claude) := by
  unfold usageSemanticFromUsage
  by_cases own : (usage.map Usage.usageSemantic).getD "" = ""
  · by_cases first : info.getFinalRequestRelayFormat = some .claude <;>
      by_cases second : info'.getFinalRequestRelayFormat = some .claude <;> simp [own, first, second]
  · simp [own]

def quotaIn (cfg : Settings) (ctx : RequestContext) (info : RelayInfo β) (semantic : String) (legacy : Bool)
    (usage : Usage) : Int :=
  chargedQuota info (usage.promptTokens + usage.completionTokens)
    (if info.priceData.usePrice then fixedQuota cfg ctx info
      else tokenQuota cfg ctx info (!(semantic == "anthropic") && !legacy) (billedUsage cfg info semantic usage))

theorem summary_quotaIn (cfg : Settings) (ctx : RequestContext) (info : RelayInfo β) (usage : Option Usage) :
    (calculateTextQuotaSummary cfg ctx info usage).quota =
      quotaIn cfg ctx info.pricing (usageSemanticFromUsage info usage)
        (isLegacyClaudeDerivedOpenAIUsage info (usage.getD (estimatedUsage info.pricing)))
        (usage.getD (estimatedUsage info.pricing)) := rfl

theorem legacy_congr {usage : Usage} (same : usage.usageSemantic ≠ "" ∨
      (info.getFinalRequestRelayFormat = some .claude ↔ info'.getFinalRequestRelayFormat = some .claude)) :
    isLegacyClaudeDerivedOpenAIUsage info usage = isLegacyClaudeDerivedOpenAIUsage info' usage := by
  unfold isLegacyClaudeDerivedOpenAIUsage
  rcases same with own | format
  · have named : (usage.usageSemantic == "") = false := beq_false_of_ne own
    simp [named]
  have formats : (info.getFinalRequestRelayFormat != some .claude) = (info'.getFinalRequestRelayFormat != some .claude) := by
    by_cases claude : info'.getFinalRequestRelayFormat = some .claude
    · simp [claude, format.mpr claude]
    · have other : info.getFinalRequestRelayFormat ≠ some .claude := fun absurd => claude (format.mp absurd)
      rw [bne_iff_ne.mpr other, bne_iff_ne.mpr claude]
  rw [formats]

theorem quota_congr (cfg : Settings) (ctx : RequestContext) (usage : Option Usage)
    (pricing : info.pricing = info'.pricing) (same : (usage.map Usage.usageSemantic).getD "" ≠ "" ∨
      (info.getFinalRequestRelayFormat = some .claude ↔ info'.getFinalRequestRelayFormat = some .claude)) :
    (calculateTextQuotaSummary cfg ctx info usage).quota = (calculateTextQuotaSummary cfg ctx info' usage).quota := by
  have legacy : isLegacyClaudeDerivedOpenAIUsage info (usage.getD (estimatedUsage info'.pricing)) =
      isLegacyClaudeDerivedOpenAIUsage info' (usage.getD (estimatedUsage info'.pricing)) := by
    apply legacy_congr
    cases usage with
    | none => exact same.imp_left fun absurd => (absurd rfl).elim
    | some reported => exact same
  rw [summary_quotaIn, summary_quotaIn, pricing, (usageSemantic_iff usage).mpr same, legacy]

def Attempt.asFirst (attempt : Attempt β) : Attempt β := { attempt with retryIndex := 0 }

/-- Neither the final format nor the inherited one that failed attempts have left speaks against the format of the
answering channel. -/
def KeepsFormat (req : RelayRequest) (info : RelayInfo β) (attempt : Attempt β) (route : Route β) : Prop :=
  attempt.answersAsClaude route = true ∨
    ((info.finalRequestRelayFormat = some .claude → route.ownFormat.or req.relayFormat = some .claude) ∧
      (info.finalRequestRelayFormat = none → route.ownFormat = none →
        (info.requestConversionChain.getLast?.or req.relayFormat = some .claude ↔
          req.relayFormat = some .claude)))

def KeepsConvention (req : RelayRequest) (info : RelayInfo β) (attempt : Attempt β) (usage : Option Usage) : Prop :=
  (usage.map Usage.usageSemantic).getD "" ≠ "" ∨
    ∀ route, attempt.conversion = .ok route → KeepsFormat req info attempt route

theorem genRelayInfo_last (req : RelayRequest) :
    (genRelayInfo req : RelayInfo β).requestConversionChain.getLast? = req.relayFormat := by
  unfold genRelayInfo RelayInfo.initRequestConversionChain
  cases req.relayFormat <;> rfl

theorem genRelayInfo_final (req : RelayRequest) : (genRelayInfo req : RelayInfo β).finalRequestRelayFormat = none := by
  unfold genRelayInfo RelayInfo.initRequestConversionChain
  split <;> rfl

variable (answered : Answered attempt info after route)

include answered in
theorem Answered.format (format : after.relayFormat = req.relayFormat) :
    after.getFinalRequestRelayFormat = if attempt.answersAsClaude route then some .claude
      else info.finalRequestRelayFormat.or
        ((route.ownFormat.or info.requestConversionChain.getLast?).or req.relayFormat) := by
  unfold RelayInfo.getFinalRequestRelayFormat
  rw [answered.final, answered.last, format]
  split <;> rfl

include answered

include of in
theorem formats_agree
    (first : Answered attempt.asFirst (genRelayInfo req) direct route) (format : after.relayFormat = req.relayFormat)
    (format' : direct.relayFormat = req.relayFormat) (usage : Option Usage) :
    ((usage.map Usage.usageSemantic).getD "" ≠ "" ∨ (after.getFinalRequestRelayFormat = some .claude ↔
        direct.getFinalRequestRelayFormat = some .claude)) ↔ KeepsConvention req info attempt usage := by
  have onlyRoute : (∀ other, attempt.conversion = .ok other → KeepsFormat req info attempt other) ↔
      KeepsFormat req info attempt route := by
    rw [answered.conversion]
    simp
  unfold KeepsConvention
  rw [onlyRoute, answered.format format, first.format format', genRelayInfo_final, genRelayInfo_last]
  have claudeFirst : attempt.asFirst.answersAsClaude route = attempt.answersAsClaude route := rfl
  rw [claudeFirst]
  refine or_congr_right ?_
  unfold KeepsFormat
  cases claude : attempt.answersAsClaude route with
  | true => simp
  | false =>
    rcases of.final with none | final
    · cases own : route.ownFormat <;> simp [none]
    · rw [final]
      cases own : route.ownFormat <;> simp

theorem Answered.relayFormat (of : OfRequest req info) : after.relayFormat = req.relayFormat :=
  (congrArg RelayInfo.relayFormat answered.pricing).trans of.relayFormat

omit answered

theorem genRelayInfo_priceData (req : RelayRequest) : (genRelayInfo req : RelayInfo β).priceData = req.priceData := by
  unfold genRelayInfo RelayInfo.initRequestConversionChain
  split <;> rfl

include of

theorem OfRequest.begin_pricing (attempt : Attempt β)
    (ratios : info.priceData.otherRatios = req.priceData.otherRatios) :
    (attempt.begin info).pricing = (attempt.asFirst.begin (genRelayInfo req)).pricing := by
  have origin := @ofRequest_genRelayInfo β req
  have price : ({ info.priceData with groupRatio := attempt.groupRatio } : PriceData) =
      { (genRelayInfo req : RelayInfo β).priceData with groupRatio := attempt.groupRatio } := by
    let combine (price : PriceData) (others : RatioMap) : PriceData :=
      { price with groupRatio := attempt.groupRatio, otherRatios := others }
    calc ({ info.priceData with groupRatio := attempt.groupRatio } : PriceData)
      _ = combine { info.priceData with groupRatio := 0, otherRatios := .empty } info.priceData.otherRatios := rfl
      _ = combine { req.priceData with groupRatio := 0, otherRatios := .empty } req.priceData.otherRatios := by
        rw [of.price, ratios]
      _ = { (genRelayInfo req : RelayInfo β).priceData with groupRatio := attempt.groupRatio } := by
        rw [genRelayInfo_priceData]
  simp only [RelayInfo.pricing, Attempt.begin, RelayInfo.initChannelMeta, RelayInfo.mk.injEq]
  exact ⟨of.1.trans origin.1.symm, of.2.trans origin.2.symm, of.3.trans origin.3.symm, of.4.trans origin.4.symm,
    of.5.trans origin.5.symm, of.6.trans origin.6.symm, price, of.7.trans origin.7.symm, by simp [Attempt.asFirst]⟩

include answered in
/-- The prices of the answer do not depend on the attempts before it, apart from the ratios these have added. -/
theorem answered_pricing {route' : Route β} (first : Answered attempt.asFirst (genRelayInfo req) direct route')
    (ratios : info.priceData.otherRatios = req.priceData.otherRatios) : after.pricing = direct.pricing := by
  have pricing (record : RelayInfo β) (added : List (String × Rat)) :
      (addOtherRatios record added).pricing = addOtherRatios record.pricing added := rfl
  rw [answered.pricing, first.pricing, pricing, pricing, pricing, pricing, of.begin_pricing attempt ratios]
  rfl

end Formats

def chatRequest : RelayRequest where
  originModelName := "chat"
  requestURLPath := "/v1/chat/completions"
  requestHeaders := .empty
  isChannelTest := false
  relayFormat := some .openAI
  estimatePromptTokens := 0
  priceData := ⟨0, 1, 1, 1 / 10, 5 / 4, 5 / 4, 2, 1, .empty, false, 1⟩
  responsesUsageInfo := none

def priceSettings : Settings := ⟨500000, fun _ => none⟩

def claudeAttempt : Attempt Unit where
  retryIndex := 0
  channel := ⟨14, "claude", .empty, .empty⟩
  groupRatio := 1
  conversionRatios := []
  conversion := .ok (.converted .claude ())
  request := .ok ()
  claudeResponse := true
  responseRatios := []
  response := .error ⟨500, "overloaded", "overloaded_error", "claude_error", false⟩

def openAIAttempt : Attempt Unit where
  retryIndex := 1
  channel := ⟨1, "gpt-4o", .empty, .empty⟩
  groupRatio := 1
  conversionRatios := []
  conversion := .ok (.converted .generalOpenAI ())
  request := .ok ()
  claudeResponse := false
  responseRatios := []
  response := .ok (some ⟨2604, 383, 2432, 0, 0, 0, 0, 0, "", "", .absent⟩)

end Tokengine.Relay
