import Tokengine.Payments.Orders
import Tokengine.Relay.Info

/-! The price of a text request. Upstreams report their tokens in two conventions: in the OpenAI convention the prompt
includes the tokens read from and written to a cache, in the Anthropic convention it does not. -/

namespace Tokengine.Relay
open Text
open Payments (roundAway decimalDiv)

/-- The `cost` of a usage, of any JSON type. -/
inductive Cost where
  | absent
  | number (val : Rat)
  | integer (val : Int)
  | other
  deriving DecidableEq

/-- The value of `usage.Cost.(float64)`. -/
def Cost.float : Cost → Rat
  | .number val => val
  | _ => 0

/-- The comparison `usage.Cost != 0`: an interface equals the constant only when it holds the `int` zero. -/
def Cost.isNotZero (cost : Cost) : Bool := cost != .integer 0

structure Usage where
  promptTokens : Int
  completionTokens : Int
  cachedTokens : Int
  (cachedCreationTokens imageTokens audioTokens claudeCacheCreation5mTokens claudeCacheCreation1hTokens : Int)
  (usageSemantic usageSource : String)
  cost : Cost
  deriving DecidableEq

structure Settings where
  quotaPerUnit : Rat
  defaultModelRatio : String → Option Rat

structure RequestContext where
  chatCompletionWebSearchContextSize : String
  claudeWebSearchRequests : Int
  imageGenerationCall : Option (String × String)
  deriving DecidableEq

def noTools : RequestContext := ⟨"", 0, none⟩

def channelTypeOpenRouter : Nat := 20

/-! `setting/operation_setting/tools.go`. -/

def getClaudeWebSearchPricePerThousand : Rat := 10

def getWebSearchPricePerThousand (modelName : String) : Rat :=
  if hasPrefix modelName "o3" || hasPrefix modelName "o4" || hasPrefix modelName "gpt-5" then 10 else 25

def getFileSearchPricePerThousand : Rat := 5 / 2

def getGeminiInputAudioPricePerMillionTokens (modelName : String) : Rat :=
  if hasPrefix modelName "gemini-2.5-flash-preview-native-audio" then 3
  else if hasPrefix modelName "gemini-2.5-flash-preview-lite" then 1 / 2
  else if hasPrefix modelName "gemini-2.5-flash-preview" then 1
  else if hasPrefix modelName "gemini-2.5-flash" then 1
  else if hasPrefix modelName "gemini-2.0-flash" then 7 / 10
  else if hasPrefix modelName "gemini-robotics-er-1.5" then 1
  else 0

def getGPTImage1PriceOnceCall (quality size : String) : Rat :=
  match quality, size with
  | "low", "1024x1024" => 11 / 1000
  | "low", "1024x1536" => 16 / 1000
  | "low", "1536x1024" => 16 / 1000
  | "medium", "1024x1024" => 42 / 1000
  | "medium", "1024x1536" => 63 / 1000
  | "medium", "1536x1024" => 63 / 1000
  | "high", "1024x1536" => 1 / 4
  | "high", "1536x1024" => 1 / 4
  | _, _ => 167 / 1000

section Billing

variable {β : Type} (cfg : Settings) (ctx : RequestContext) (info : RelayInfo β)

def usageSemanticFromUsage (usage : Option Usage) : String :=
  let own := (usage.map Usage.usageSemantic).getD ""
  if own ≠ "" then own
  else if info.getFinalRequestRelayFormat = some .claude then "anthropic" else "openai"

def isLegacyClaudeDerivedOpenAIUsage (usage : Usage) : Bool :=
  info.getFinalRequestRelayFormat != some .claude && usage.usageSource == "" && usage.usageSemantic == "" &&
    (decide (0 < usage.claudeCacheCreation5mTokens) || decide (0 < usage.claudeCacheCreation1hTokens))

def hasCustomModelRatio (modelName : String) (currentRatio : Rat) : Bool :=
  match cfg.defaultModelRatio modelName with
  | none => true
  | some ratio => currentRatio != ratio

/-- An `int` of NaN or of an infinity, as the 64-bit conversion of amd64 yields it. -/
def minInt : Int := -9223372036854775808

def calcOpenRouterCacheCreateTokens (usage : Usage) (price : PriceData) : Int :=
  if price.cacheCreationRatio = 1 then 0
  else
    let quotaPrice := price.modelRatio / cfg.quotaPerUnit
    let promptCacheCreatePrice := quotaPrice * price.cacheCreationRatio
    let promptCacheReadPrice := quotaPrice * price.cacheRatio
    let completionPrice := quotaPrice * price.completionRatio
    if promptCacheCreatePrice - quotaPrice = 0 then minInt
    else roundAway ((usage.cost.float - usage.promptTokens * quotaPrice +
      usage.cachedTokens * (quotaPrice - promptCacheReadPrice) - usage.completionTokens * completionPrice) /
        (promptCacheCreatePrice - quotaPrice))

def isOpenRouterChannel : Bool := (info.channelMeta.map ChannelMeta.channelType) == some channelTypeOpenRouter

def openRouterCacheCreation (usage : Usage) : Int :=
  let prompt := usage.promptTokens - usage.cachedTokens
  let isUsingCustomSettings := info.priceData.usePrice ||
    hasCustomModelRatio cfg info.originModelName info.priceData.modelRatio
  if usage.cachedCreationTokens = 0 ∧ info.priceData.cacheCreationRatio ≠ 1 ∧ usage.cost.isNotZero = true ∧
      isUsingCustomSettings = false then
    let maybeCacheCreationTokens := calcOpenRouterCacheCreateTokens cfg usage info.priceData
    if 0 ≤ maybeCacheCreationTokens ∧ maybeCacheCreationTokens ≤ prompt then maybeCacheCreationTokens
    else usage.cachedCreationTokens
  else usage.cachedCreationTokens

def calledTool (name : String) : Option BuildInToolInfo :=
  (info.responsesUsageInfo.bind (List.lookup name)).filter fun tool => decide (0 < tool.callCount)

def isSearchPreview (modelName : String) : Bool :=
  ("search-preview".toList.reverse).isPrefixOf modelName.toList.reverse

def webSearch : Int × Rat :=
  match info.responsesUsageInfo with
  | some _ => match calledTool info "web_search_preview" with
    | some tool => (tool.callCount, getWebSearchPricePerThousand info.originModelName)
    | none => (0, 0)
  | none =>
    if isSearchPreview info.originModelName then (1, getWebSearchPricePerThousand info.originModelName) else (0, 0)

def webSearchQuota : Rat :=
  decimalDiv ((webSearch info).2 * (webSearch info).1) 1000 * info.priceData.groupRatio * cfg.quotaPerUnit

def claudeWebSearchQuota : Rat :=
  if 0 < ctx.claudeWebSearchRequests then
    decimalDiv getClaudeWebSearchPricePerThousand 1000 * info.priceData.groupRatio * cfg.quotaPerUnit *
      ctx.claudeWebSearchRequests
  else 0

def fileSearchQuota : Rat :=
  match calledTool info "file_search" with
  | some tool =>
    decimalDiv (getFileSearchPricePerThousand * tool.callCount) 1000 * info.priceData.groupRatio * cfg.quotaPerUnit
  | none => 0

def imageGenerationCallQuota : Rat :=
  match ctx.imageGenerationCall with
  | some (quality, size) => getGPTImage1PriceOnceCall quality size * info.priceData.groupRatio * cfg.quotaPerUnit
  | none => 0

def audioInputPrice (audioTokens : Int) : Rat :=
  if audioTokens ≠ 0 then getGeminiInputAudioPricePerMillionTokens info.originModelName else 0

def audioInputQuota (audioTokens : Int) : Rat :=
  if 0 < audioInputPrice info audioTokens then
    decimalDiv (audioInputPrice info audioTokens) 1000000 * audioTokens * info.priceData.groupRatio * cfg.quotaPerUnit
  else 0

def extraQuota (audioQuota : Rat) : Rat :=
  webSearchQuota cfg info + claudeWebSearchQuota cfg ctx info + fileSearchQuota cfg info + audioQuota +
    imageGenerationCallQuota cfg ctx info

def applyOtherRatios (quota : Rat) : Rat :=
  info.priceData.otherRatios.rows.foldl (fun product entry => product * entry.2) quota

def priceRatio : Rat := info.priceData.modelRatio * info.priceData.groupRatio

def hasCacheCreation (usage : Usage) : Bool :=
  usage.cachedCreationTokens != 0 || decide (0 < usage.claudeCacheCreation5mTokens) ||
    decide (0 < usage.claudeCacheCreation1hTokens)

/-- The tokens that are billed at the price of the input: `included` says that the prompt counts the cached ones. -/
def baseTokens (included : Bool) (usage : Usage) : Rat :=
  usage.promptTokens - (if usage.cachedTokens ≠ 0 ∧ included = true then usage.cachedTokens else 0 : Int) -
    (if hasCacheCreation usage ∧ included = true then usage.cachedCreationTokens else 0 : Int) - usage.imageTokens -
      (if 0 < audioInputPrice info usage.audioTokens then usage.audioTokens else 0 : Int)

def cachedCreationTokensWithRatio (included : Bool) (usage : Usage) : Rat :=
  if hasCacheCreation usage = false then 0
  else if included then usage.cachedCreationTokens * info.priceData.cacheCreationRatio
  else
    let remaining := usage.cachedCreationTokens - usage.claudeCacheCreation5mTokens - usage.claudeCacheCreation1hTokens
    (max remaining 0 : Int) * info.priceData.cacheCreationRatio +
      usage.claudeCacheCreation5mTokens * info.priceData.cacheCreation5mRatio +
      usage.claudeCacheCreation1hTokens * info.priceData.cacheCreation1hRatio

def tokenQuota (included : Bool) (usage : Usage) : Int :=
  let promptQuota := baseTokens info included usage + usage.cachedTokens * info.priceData.cacheRatio +
    usage.imageTokens * info.priceData.imageRatio + cachedCreationTokensWithRatio info included usage
  let completionQuota := usage.completionTokens * info.priceData.completionRatio
  let quota := applyOtherRatios info ((promptQuota + completionQuota) * priceRatio info +
    extraQuota cfg ctx info (audioInputQuota cfg info usage.audioTokens))
  roundAway (if priceRatio info ≠ 0 ∧ quota ≤ 0 then 1 else quota)

def fixedQuota : Int :=
  roundAway (applyOtherRatios info (info.priceData.modelPrice * cfg.quotaPerUnit * info.priceData.groupRatio +
    extraQuota cfg ctx info 0))

structure TextQuotaSummary where
  promptTokens : Int
  completionTokens : Int
  totalTokens : Int
  (cacheTokens cacheCreationTokens cacheCreationTokens5m cacheCreationTokens1h imageTokens audioTokens quota : Int)
  isClaudeUsageSemantic : Bool
  usageSemantic : String
  webSearchPrice : Rat
  webSearchCallCount : Int
  claudeWebSearchPrice : Rat
  claudeWebSearchCallCount : Int
  fileSearchPrice : Rat
  fileSearchCallCount : Int
  (audioInputPrice imageGenerationCallPrice : Rat)

def estimatedUsage : Usage where
  promptTokens := info.estimatePromptTokens
  completionTokens := 0
  cachedTokens := 0
  cachedCreationTokens := 0
  imageTokens := 0
  audioTokens := 0
  claudeCacheCreation5mTokens := 0
  claudeCacheCreation1hTokens := 0
  usageSemantic := ""
  usageSource := ""
  cost := .absent

def billedUsage (semantic : String) (usage : Usage) : Usage :=
  if isOpenRouterChannel info && semantic == "anthropic" then
    { usage with
      promptTokens := usage.promptTokens - usage.cachedTokens - openRouterCacheCreation cfg info usage
      cachedCreationTokens := openRouterCacheCreation cfg info usage }
  else usage

def chargedQuota (totalTokens quota : Int) : Int :=
  if totalTokens = 0 then 0 else if priceRatio info ≠ 0 ∧ quota = 0 then 1 else quota

def calculateTextQuotaSummary (usage : Option Usage) : TextQuotaSummary :=
  let semantic := usageSemanticFromUsage info usage
  let usage := usage.getD (estimatedUsage info)
  let legacyClaudeDerived := isLegacyClaudeDerivedOpenAIUsage info usage
  let billed := billedUsage cfg info semantic usage
  let included := !(semantic == "anthropic") && !legacyClaudeDerived
  let totalTokens := usage.promptTokens + usage.completionTokens
  let quota := if info.priceData.usePrice then fixedQuota cfg ctx info else tokenQuota cfg ctx info included billed
  { promptTokens := billed.promptTokens
    completionTokens := billed.completionTokens
    totalTokens := totalTokens
    cacheTokens := billed.cachedTokens
    cacheCreationTokens := billed.cachedCreationTokens
    cacheCreationTokens5m := billed.claudeCacheCreation5mTokens
    cacheCreationTokens1h := billed.claudeCacheCreation1hTokens
    imageTokens := billed.imageTokens
    audioTokens := billed.audioTokens
    quota := chargedQuota info totalTokens quota
    isClaudeUsageSemantic := semantic == "anthropic"
    usageSemantic := semantic
    webSearchPrice := (webSearch info).2
    webSearchCallCount := (webSearch info).1
    claudeWebSearchPrice := if 0 < ctx.claudeWebSearchRequests then getClaudeWebSearchPricePerThousand else 0
    claudeWebSearchCallCount := ctx.claudeWebSearchRequests
    fileSearchPrice := if (calledTool info "file_search").isSome then getFileSearchPricePerThousand else 0
    fileSearchCallCount := ((calledTool info "file_search").map BuildInToolInfo.callCount).getD 0
    audioInputPrice := if info.priceData.usePrice then 0 else Relay.audioInputPrice info billed.audioTokens
    imageGenerationCallPrice :=
      (ctx.imageGenerationCall.map fun call => getGPTImage1PriceOnceCall call.1 call.2).getD 0 }

end Billing

end Tokengine.Relay
