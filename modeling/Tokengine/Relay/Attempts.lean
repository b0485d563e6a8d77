import Tokengine.Relay.TextQuota

/-! The attempts of the retry loop. An attempt is described by its channel and by what its surroundings do to it: how
the adaptor converts the request, whether the upstream can be reached, what it answers. The record of the request
goes from one attempt to the next. -/

namespace Tokengine.Relay

structure RelayRequest where
  (originModelName requestURLPath : String)
  requestHeaders : HeaderMap
  isChannelTest : Bool
  relayFormat : Option RelayFormat
  estimatePromptTokens : Int
  priceData : PriceData
  responsesUsageInfo : Option (List (String × BuildInToolInfo))

def genRelayInfo {β : Type} (req : RelayRequest) : RelayInfo β :=
  RelayInfo.initRequestConversionChain
    { originModelName := req.originModelName
      requestURLPath := req.requestURLPath
      requestHeaders := req.requestHeaders
      isChannelTest := req.isChannelTest
      relayFormat := req.relayFormat
      estimatePromptTokens := req.estimatePromptTokens
      priceData := req.priceData
      responsesUsageInfo := req.responsesUsageInfo
      requestConversionChain := []
      finalRequestRelayFormat := none
      retryIndex := 0
      lastError := none
      runtimeHeadersOverride := .empty
      useRuntimeHeadersOverride := false
      channelMeta := none }

inductive Route (β : Type) where
  /-- The body of the client is passed on. -/
  | passThrough
  /-- The adaptor converts the request, and the result is overridden. -/
  | converted (request : RequestType) (body : β)
  /-- The adaptor yields a form, which is not overridden. -/
  | form (request : RequestType)
  /-- `chatCompletionsViaResponses`: the chat request is overridden, rewritten and then converted. -/
  | viaResponses (chat : β) (rewritten : Except LastError Unit) (request : Except LastError RequestType)

structure Attempt (β : Type) where
  retryIndex : Nat
  channel : ChannelMeta β
  /-- The ratio of the group in which the channel was found. -/
  groupRatio : Rat
  /-- What the conversion adds to the other ratios, whether or not it succeeds. -/
  conversionRatios : List (String × Rat)
  conversion : Except LastError (Route β)
  request : Except LastError Unit
  /-- The adaptor handles the response as Claude's does. -/
  claudeResponse : Bool
  /-- What the response adds to the other ratios. -/
  responseRatios : List (String × Rat)
  response : Except LastError (Option Usage)

/-- The record after an attempt, the header override that was sent, and what came of it. -/
structure Result (β : Type) where
  info : RelayInfo β
  headers : Option HeaderMap
  outcome : Except LastError (Option Usage)

/-- What `newAPIErrorFromParamOverride` makes of an error that no operation asked for. -/
def invalidOverride (message : String) : LastError :=
  ⟨500, message, "channel:param_override_invalid", "new_api_error", true⟩

section Attempts

variable {β : Type} (newAPIErrorFromParamOverride : String → LastError)

def addOtherRatios (info : RelayInfo β) (ratios : List (String × Rat)) : RelayInfo β :=
  { info with priceData := ratios.foldl PriceData.addOtherRatio info.priceData }

def Attempt.begin (attempt : Attempt β) (info : RelayInfo β) : RelayInfo β :=
  RelayInfo.initChannelMeta
    { info with
      retryIndex := attempt.retryIndex
      priceData := { info.priceData with groupRatio := attempt.groupRatio } } attempt.channel

def overrideBody (info : RelayInfo β) (body : β) : RelayInfo β × Except LastError Unit :=
  match info.applyParamOverrideWithRelayInfo body with
  | .error e => (info, .error (newAPIErrorFromParamOverride e))
  | .ok (_, overridden) => (overridden, .ok ())

/-- The part of `chatCompletionsViaResponses` after the override. -/
def responsesRequest (info : RelayInfo β) (rewritten : Except LastError Unit) (req : Except LastError RequestType) :
    RelayInfo β × Except LastError Unit :=
  match rewritten with
  | .error e => (info, .error e)
  | .ok () => match req with
    | .error e => (info.appendRequestConversion .openAIResponses, .error e)
    | .ok req =>
      ((info.appendRequestConversion .openAIResponses).appendRequestConversionFromRequest req, .ok ())

def Route.prepare (info : RelayInfo β) : Route β → RelayInfo β × Except LastError Unit
  | .passThrough => (info, .ok ())
  | .form req => (info.appendRequestConversionFromRequest req, .ok ())
  | .converted req body =>
    overrideBody newAPIErrorFromParamOverride (info.appendRequestConversionFromRequest req) body
  | .viaResponses chat rewritten req => match overrideBody newAPIErrorFromParamOverride info chat with
    | (overridden, .error e) => (overridden, .error e)
    | (overridden, .ok ()) => responsesRequest overridden rewritten req

/-- `DoResponse` of the adaptor is not called when the chat goes through the Responses API. -/
def Route.callsDoResponse : Route β → Bool
  | .viaResponses _ _ _ => false
  | _ => true

def Attempt.receive (attempt : Attempt β) (route : Route β) (info : RelayInfo β) : RelayInfo β :=
  addOtherRatios (if attempt.claudeResponse && route.callsDoResponse then
    { info with finalRequestRelayFormat := some .claude } else info) attempt.responseRatios

/-- One attempt: the body of the loop of `Relay`, with the helper it calls. -/
def Attempt.run (attempt : Attempt β) (info : RelayInfo β) : Result β :=
  let started := addOtherRatios (attempt.begin info) attempt.conversionRatios
  match attempt.conversion with
  | .error e => ⟨started, none, .error e⟩
  | .ok route => match route.prepare newAPIErrorFromParamOverride started with
    | (prepared, .error e) => ⟨prepared, none, .error e⟩
    | (prepared, .ok ()) => match attempt.request with
      | .error e => ⟨prepared, some prepared.getEffectiveHeaderOverride, .error e⟩
      | .ok () => ⟨attempt.receive route prepared, some prepared.getEffectiveHeaderOverride, attempt.response⟩

def tryChannel (info : RelayInfo β) (attempt : Attempt β) : Option (RelayInfo β) :=
  match (attempt.run newAPIErrorFromParamOverride info).outcome with
  | .error e => some { (attempt.run newAPIErrorFromParamOverride info).info with lastError := some e }
  | .ok _ => none

end Attempts

end Tokengine.Relay
