import Mathlib.Data.Rat.Defs
import Tokengine.Relay.Headers

/-! The request-wide record of a relayed request. It outlives the attempts of the retry loop: an attempt replaces the
channel, appends to the chain of conversions, and may leave a final format and headers behind. -/

namespace Tokengine.Relay

inductive RelayFormat where
  | openAI
  | claude
  | gemini
  | openAIResponses
  | openAIResponsesCompaction
  | openAIAudio
  | openAIImage
  | openAIRealtime
  | rerank
  | embedding
  | task
  | mjProxy
  deriving DecidableEq

/-- The Go type of a converted request, as far as `GuessRelayFormatFromRequest` tells types apart. -/
inductive RequestType where
  | generalOpenAI
  | openAIResponses
  | claude
  | geminiChat
  | embedding
  | rerank
  | image
  | audio
  | other
  deriving DecidableEq

def guessRelayFormatFromRequest : RequestType → Option RelayFormat
  | .generalOpenAI => some .openAI
  | .openAIResponses => some .openAIResponses
  | .claude => some .claude
  | .geminiChat => some .gemini
  | .embedding => some .embedding
  | .rerank => some .rerank
  | .image => some .openAIImage
  | .audio => some .openAIAudio
  | .other => none

abbrev RatioMap := Table (Prod.fst : String × Rat → String)

structure PriceData where
  modelPrice : Rat
  (modelRatio completionRatio cacheRatio cacheCreationRatio cacheCreation5mRatio cacheCreation1hRatio imageRatio : Rat)
  otherRatios : RatioMap
  usePrice : Bool
  groupRatio : Rat

def PriceData.addOtherRatio (price : PriceData) (entry : String × Rat) : PriceData :=
  if entry.2 ≤ 0 then price else { price with otherRatios := price.otherRatios.save entry }

structure ChannelMeta (β : Type) where
  channelType : Nat
  upstreamModelName : String
  headersOverride : HeaderMap
  paramOverride : ParamOverride β

structure BuildInToolInfo where
  callCount : Int
  searchContextSize : String
  deriving DecidableEq

/-- `RelayInfo`, of a request whose converted bodies have the type `β`. -/
structure RelayInfo (β : Type) where
  (originModelName requestURLPath : String)
  requestHeaders : HeaderMap
  isChannelTest : Bool
  relayFormat : Option RelayFormat
  estimatePromptTokens : Int
  priceData : PriceData
  responsesUsageInfo : Option (List (String × BuildInToolInfo))
  requestConversionChain : List RelayFormat
  finalRequestRelayFormat : Option RelayFormat
  retryIndex : Nat
  lastError : Option LastError
  runtimeHeadersOverride : HeaderMap
  useRuntimeHeadersOverride : Bool
  channelMeta : Option (ChannelMeta β)

namespace RelayInfo

variable {β : Type}

def initRequestConversionChain (info : RelayInfo β) : RelayInfo β :=
  if info.requestConversionChain ≠ [] then info
  else { info with requestConversionChain := info.relayFormat.toList }

def appendRequestConversion (info : RelayInfo β) (format : RelayFormat) : RelayInfo β :=
  if info.requestConversionChain.getLast? = some format then info
  else { info with requestConversionChain := info.requestConversionChain ++ [format] }

def appendRequestConversionFromRequest (info : RelayInfo β) (req : RequestType) : RelayInfo β :=
  match guessRelayFormatFromRequest req with
  | none => info
  | some format => info.appendRequestConversion format

def getFinalRequestRelayFormat (info : RelayInfo β) : Option RelayFormat :=
  info.finalRequestRelayFormat.or (info.requestConversionChain.getLast?.or info.relayFormat)

/-- `InitChannelMeta`: the channel is replaced, and nothing else of the record is reset. -/
def initChannelMeta (info : RelayInfo β) (ch : ChannelMeta β) : RelayInfo β :=
  { info with channelMeta := some ch }

def getHeaderOverrideMap (info : RelayInfo β) : HeaderMap := (info.channelMeta.map ChannelMeta.headersOverride).getD .empty

def getParamOverrideMap (info : RelayInfo β) : ParamOverride β :=
  (info.channelMeta.map ChannelMeta.paramOverride).getD .empty

def getEffectiveHeaderOverride (info : RelayInfo β) : HeaderMap :=
  if info.useRuntimeHeadersOverride then sanitizeHeaderOverrideMap info.runtimeHeadersOverride
  else sanitizeHeaderOverrideMap info.getHeaderOverrideMap

def buildParamOverrideContext (info : RelayInfo β) : OverrideContext where
  upstreamModel := (info.channelMeta.map ChannelMeta.upstreamModelName).getD ""
  originalModel := info.originModelName
  requestPath := info.requestURLPath
  requestHeaders := buildRequestHeadersContext info.requestHeaders
  headerOverride := sanitizeHeaderOverrideMap info.getEffectiveHeaderOverride
  retryIndex := info.retryIndex
  lastError := info.lastError
  isChannelTest := info.isChannelTest

def syncRuntimeHeaderOverrideFromContext (info : RelayInfo β) (ctx : OverrideContext) : RelayInfo β :=
  { info with
    runtimeHeadersOverride := sanitizeHeaderOverrideMap ctx.headerOverride
    useRuntimeHeadersOverride := true }

def applyParamOverrideWithRelayInfo (info : RelayInfo β) (body : β) : Except String (β × RelayInfo β) :=
  match info.getParamOverrideMap with
  | .empty => .ok (body, info)
  | override => do
    let (res, ctx) ← applyParamOverride body info.buildParamOverrideContext override
    pure (res, info.syncRuntimeHeaderOverrideFromContext ctx)

end RelayInfo

end Tokengine.Relay
