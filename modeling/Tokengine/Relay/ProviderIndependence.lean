import Tokengine.Relay.TextQuota

/-! One physical usage, reported in three forms. In each of them the code arrives at the same four numbers of tokens,
and from there at the same price. Two things set the forms apart: the total of the Anthropic convention counts no
cached tokens, and OpenRouter's cost may stand for cache writes that were not reported. -/

namespace Tokengine.Relay
open Option
open Payments (roundAway)

structure Tokens where
  (uncached reads writes completion : Nat)

def Tokens.input (tokens : Tokens) : Int := tokens.uncached + tokens.reads + tokens.writes

inductive Form where
  | openAI
  | anthropic
  | openRouter

/-- A usage that states the tokens, with the given prompt and without a split of the cache writes. -/
structure States (tokens : Tokens) (prompt : Int) (usage : Usage) : Prop where
  prompt : usage.promptTokens = prompt
  completion : usage.completionTokens = tokens.completion
  cached : usage.cachedTokens = tokens.reads
  created : usage.cachedCreationTokens = tokens.writes
  fiveMinutes : usage.claudeCacheCreation5mTokens = 0
  oneHour : usage.claudeCacheCreation1hTokens = 0
  image : usage.imageTokens = 0
  audio : usage.audioTokens = 0

section Reports

variable {β : Type} (cfg : Settings) (ctx : RequestContext) (info : RelayInfo β) (tokens : Tokens) (usage : Usage)

def Reports : Form → Prop
  | .openAI => usageSemanticFromUsage info (some usage) ≠ "anthropic" ∧ States tokens tokens.input usage
  | .anthropic => usageSemanticFromUsage info (some usage) = "anthropic" ∧ isOpenRouterChannel info = false ∧
      States tokens tokens.uncached usage
  | .openRouter => usageSemanticFromUsage info (some usage) = "anthropic" ∧ isOpenRouterChannel info = true ∧
      States tokens tokens.input usage

def quotaPrice : Rat := info.priceData.modelRatio / cfg.quotaPerUnit

def listPrice : Rat :=
  tokens.uncached * quotaPrice cfg info + tokens.reads * (quotaPrice cfg info * info.priceData.cacheRatio) +
    tokens.completion * (quotaPrice cfg info * info.priceData.completionRatio)

def Free : Prop := info.priceData.usePrice = false ∧ priceRatio info = 0 ∧ extraQuota cfg ctx info 0 = 0

def Billable : Form → Prop
  | .openAI => True
  | .anthropic => tokens.uncached + tokens.completion = 0 →
      tokens.reads + tokens.writes = 0 ∨ Free cfg ctx info
  | .openRouter => 0 < tokens.writes ∨ info.priceData.usePrice = true ∨
      hasCustomModelRatio cfg info.originModelName info.priceData.modelRatio = true ∨
      (usage.cost.float - listPrice cfg info tokens) *
        (quotaPrice cfg info * info.priceData.cacheCreationRatio - quotaPrice cfg info) ≤ 0

def pricedTokens (input reads writes completion : Rat) : Int :=
  let quota := applyOtherRatios info ((input + reads * info.priceData.cacheRatio +
    writes * info.priceData.cacheCreationRatio + completion * info.priceData.completionRatio) * priceRatio info +
      extraQuota cfg ctx info 0)
  roundAway (if priceRatio info ≠ 0 ∧ quota ≤ 0 then 1 else quota)

def Tokens.quota : Int :=
  chargedQuota info (tokens.input + tokens.completion) (if info.priceData.usePrice then fixedQuota cfg ctx info
    else pricedTokens cfg ctx info tokens.uncached tokens.reads tokens.writes tokens.completion)

variable {info tokens usage} {prompt : Int}

theorem roundAway_nonpos {val : Rat} (nonpos : val ≤ 0) : roundAway val ≤ 0 := by
  unfold roundAway
  split
  next nonneg =>
    have zero : val = 0 := le_antisymm nonpos nonneg
    rw [zero]
    decide +kernel
  · have half : (0 : Rat) ≤ -val + 1 / 2 := by linarith
    have floor : 0 ≤ ⌊-val + 1 / 2⌋ := Int.floor_nonneg.mpr half
    omega

theorem audioInputPrice_zero : audioInputPrice info 0 = 0 := if_neg (fun absurd => absurd rfl)

theorem audioInputQuota_zero : audioInputQuota cfg info 0 = 0 := by
  exact if_neg (lt_irrefl 0)

section

variable (states : States tokens prompt usage)
include states

theorem hasCacheCreation_states : hasCacheCreation usage = true ↔ tokens.writes ≠ 0 := by
  simp [hasCacheCreation, states.created, states.fiveMinutes, states.oneHour]

variable (included : Bool)

theorem baseTokens_states :
    baseTokens info included usage = prompt - if included then (tokens.reads + tokens.writes : Rat) else 0 := by
  unfold baseTokens
  rw [states.prompt, states.cached, states.created, states.image, states.audio, audioInputPrice_zero,
    if_neg (lt_irrefl (0 : Rat))]
  cases included with
  | false => simp
  | true =>
    have written := hasCacheCreation_states states
    have readTokens : (if (tokens.reads : Int) ≠ 0 ∧ true = true then (tokens.reads : Int) else 0) = tokens.reads := by
      by_cases none : tokens.reads = 0 <;> simp [none]
    have writtenTokens :
        (if hasCacheCreation usage = true ∧ true = true then (tokens.writes : Int) else 0) = tokens.writes := by
      by_cases none : tokens.writes = 0
      · simp [none]
      · simp [written.mpr none]
    rw [readTokens, writtenTokens, if_pos rfl]
    push_cast
    ring

theorem cachedCreation_states :
    cachedCreationTokensWithRatio info included usage = tokens.writes * info.priceData.cacheCreationRatio := by
  have written := hasCacheCreation_states states
  unfold cachedCreationTokensWithRatio
  rw [states.created, states.fiveMinutes, states.oneHour]
  split
  next none =>
    have writes : tokens.writes = 0 := by
      rw [none] at written
      simpa using written
    simp [writes]
  · split <;> simp

theorem tokenQuota_states : tokenQuota cfg ctx info included usage = pricedTokens cfg ctx info
      (prompt - if included then (tokens.reads + tokens.writes : Rat) else 0) tokens.reads tokens.writes
        tokens.completion := by
  unfold tokenQuota pricedTokens
  rw [baseTokens_states states, cachedCreation_states states, states.cached, states.image, states.audio,
    states.completion, audioInputQuota_zero]
  simp

end

theorem calcOpenRouter_nonpos (states : States tokens tokens.input usage) (unwritten : tokens.writes = 0)
    (listed : (usage.cost.float - listPrice cfg info tokens) *
      (quotaPrice cfg info * info.priceData.cacheCreationRatio - quotaPrice cfg info) ≤ 0) :
    calcOpenRouterCacheCreateTokens cfg usage info.priceData ≤ 0 := by
  unfold calcOpenRouterCacheCreateTokens
  split
  · exact le_rfl
  dsimp only
  split
  · decide
  · apply roundAway_nonpos
    rw [states.prompt, states.cached, states.completion]
    unfold listPrice quotaPrice at listed
    unfold Tokens.input
    rw [unwritten]
    push_cast
    rw [div_nonpos_iff]
    rcases mul_nonpos_iff.mp listed with ⟨above, below⟩ | ⟨above, below⟩
    · left
      exact ⟨by linarith, by linarith⟩
    · right
      exact ⟨by linarith, by linarith⟩

theorem openRouterCacheCreation_states (states : States tokens tokens.input usage)
    (billable : Billable cfg ctx info tokens usage .openRouter) :
    openRouterCacheCreation cfg info usage = tokens.writes := by
  unfold openRouterCacheCreation
  rw [states.created]
  dsimp only
  split
  next inferred =>
    obtain ⟨none, _, _, standard⟩ := inferred
    have unwritten : tokens.writes = 0 := by omega
    rw [Bool.or_eq_false_iff] at standard
    have nonpos : calcOpenRouterCacheCreateTokens cfg usage info.priceData ≤ 0 := by
      rcases billable with some | price | custom | listed
      · omega
      · exact absurd price (by simp [standard.1])
      · exact absurd custom (by simp [standard.2])
      · exact calcOpenRouter_nonpos cfg states unwritten listed
    split <;> omega
  · rfl

theorem legacy_states (states : States tokens prompt usage) : isLegacyClaudeDerivedOpenAIUsage info usage = false := by
  simp [isLegacyClaudeDerivedOpenAIUsage, states.fiveMinutes, states.oneHour]

theorem chargedQuota_total {total total' quota : Int} (same : total = 0 ↔ total' = 0) :
    chargedQuota info total quota = chargedQuota info total' quota := by
  simp only [chargedQuota, same]

theorem summary_quota (semantic : usageSemanticFromUsage info (some usage) = "anthropic") :
    (calculateTextQuotaSummary cfg ctx info (some usage)).quota =
      chargedQuota info (usage.promptTokens + usage.completionTokens) (if info.priceData.usePrice then
        fixedQuota cfg ctx info else tokenQuota cfg ctx info false (billedUsage cfg info "anthropic" usage)) := by
  simp only [calculateTextQuotaSummary, semantic, getD_some]
  rfl

theorem quota_openAI (reports : Reports info tokens usage .openAI) :
    (calculateTextQuotaSummary cfg ctx info (some usage)).quota = tokens.quota cfg ctx info := by
  obtain ⟨semantic, states⟩ := reports
  have other : (usageSemanticFromUsage info (some usage) == "anthropic") = false := beq_false_of_ne semantic
  simp only [calculateTextQuotaSummary, getD_some, legacy_states states, billedUsage, other, Bool.and_false,
    Bool.false_eq_true, if_false, Bool.not_false, Bool.and_self, tokenQuota_states cfg ctx states true, if_true,
    Tokens.quota, states.prompt, states.completion]
  have input : (tokens.input : Rat) - (tokens.reads + tokens.writes) = tokens.uncached := by
    unfold Tokens.input
    push_cast
    ring
  rw [input]

theorem applyOtherRatios_zero : applyOtherRatios info 0 = 0 := by
  unfold applyOtherRatios
  induction info.priceData.otherRatios.rows with
  | nil => rfl
  | cons entry entries ih => rw [List.foldl_cons, zero_mul, ih]

theorem Free.quota (free : Free cfg ctx info) : tokens.quota cfg ctx info = 0 := by
  obtain ⟨byTokens, ratio, extra⟩ := free
  have priced : pricedTokens cfg ctx info tokens.uncached tokens.reads tokens.writes tokens.completion = 0 := by
    simp only [pricedTokens, ratio, extra, mul_zero, add_zero, applyOtherRatios_zero, ne_eq, not_true_eq_false,
      false_and, if_false]
    decide +kernel
  simp [Tokens.quota, chargedQuota, byTokens, ratio, priced]

theorem quota_anthropic (reports : Reports info tokens usage .anthropic)
    (billable : Billable cfg ctx info tokens usage .anthropic) :
    (calculateTextQuotaSummary cfg ctx info (some usage)).quota = tokens.quota cfg ctx info := by
  obtain ⟨semantic, ch, states⟩ := reports
  have billed : billedUsage cfg info "anthropic" usage = usage := by
    unfold billedUsage
    rw [ch]
    rfl
  rw [summary_quota cfg ctx semantic, billed, tokenQuota_states cfg ctx states, states.prompt,
    states.completion]
  by_cases counted : tokens.uncached + tokens.completion = 0 ∧ tokens.reads + tokens.writes ≠ 0
  · -- the reported total is zero, so nothing is charged
    have free : Free cfg ctx info := (billable counted.1).resolve_left counted.2
    have total : (tokens.uncached : Int) + tokens.completion = 0 := by omega
    rw [total, free.quota]
    exact if_pos rfl
  · have total : (tokens.uncached : Int) + tokens.completion = 0 ↔ tokens.input + tokens.completion = 0 := by
      unfold Tokens.input
      omega
    rw [chargedQuota_total total]
    simp [Tokens.quota]

theorem quota_openRouter (reports : Reports info tokens usage .openRouter)
    (billable : Billable cfg ctx info tokens usage .openRouter) :
    (calculateTextQuotaSummary cfg ctx info (some usage)).quota = tokens.quota cfg ctx info := by
  obtain ⟨semantic, ch, states⟩ := reports
  have created := openRouterCacheCreation_states cfg ctx states billable
  have billed : billedUsage cfg info "anthropic" usage =
      { usage with promptTokens := tokens.uncached, cachedCreationTokens := tokens.writes } := by
    unfold billedUsage
    rw [ch, created, states.prompt, states.cached]
    simp only [Tokens.input, beq_self_eq_true, Bool.and_self, if_true]
    congr 1
    omega
  have billedStates : States tokens tokens.uncached
      { usage with promptTokens := tokens.uncached, cachedCreationTokens := tokens.writes } :=
    ⟨rfl, states.completion, states.cached, rfl, states.fiveMinutes, states.oneHour, states.image, states.audio⟩
  rw [summary_quota cfg ctx semantic, billed, tokenQuota_states cfg ctx billedStates, states.prompt,
    states.completion]
  simp [Tokens.quota]

theorem quota_of_report (form : Form) (reports : Reports info tokens usage form)
    (billable : Billable cfg ctx info tokens usage form) :
    (calculateTextQuotaSummary cfg ctx info (some usage)).quota = tokens.quota cfg ctx info := by
  cases form with
  | openAI => exact quota_openAI cfg ctx reports
  | anthropic => exact quota_anthropic cfg ctx reports billable
  | openRouter => exact quota_openRouter cfg ctx reports billable

structure SamePricing (info info' : RelayInfo β) : Prop where
  model : info'.originModelName = info.originModelName
  price : info'.priceData = info.priceData
  tools : info'.responsesUsageInfo = info.responsesUsageInfo

theorem SamePricing.quota {info' : RelayInfo β} (same : SamePricing info info') :
    tokens.quota cfg ctx info' = tokens.quota cfg ctx info := by
  obtain ⟨model, price, tools⟩ := same
  cases info
  subst model price tools
  rfl

end Reports

/-- Whatever the forms, two reports of the same tokens that are billed as their tokens cost the same. -/
theorem provider_independent_quota {β : Type} (cfg : Settings) (ctx : RequestContext) (tokens : Tokens)
    (form form' : Form) (info info' : RelayInfo β) (usage usage' : Usage) (same : SamePricing info info')
    (reports : Reports info tokens usage form) (reports' : Reports info' tokens usage' form')
    (billable : Billable cfg ctx info tokens usage form) (billable' : Billable cfg ctx info' tokens usage' form') :
    (calculateTextQuotaSummary cfg ctx info (some usage)).quota =
      (calculateTextQuotaSummary cfg ctx info' (some usage')).quota := by
  calc (calculateTextQuotaSummary cfg ctx info (some usage)).quota
    _ = tokens.quota cfg ctx info := quota_of_report cfg ctx form reports billable
    _ = tokens.quota cfg ctx info' := (same.quota cfg ctx).symm
    _ = (calculateTextQuotaSummary cfg ctx info' (some usage')).quota :=
      (quota_of_report cfg ctx form' reports' billable').symm

def claudePrice : PriceData where
  modelPrice := 0
  modelRatio := 1
  completionRatio := 5
  cacheRatio := 1 / 10
  cacheCreationRatio := 5 / 4
  cacheCreation5mRatio := 5 / 4
  cacheCreation1hRatio := 2
  imageRatio := 1
  otherRatios := .empty
  usePrice := false
  groupRatio := 1

def standardSettings : Settings := ⟨500000, fun name => if name = "claude" then some 1 else none⟩

def answeredBy (channelType : Nat) (format : RelayFormat) : RelayInfo Unit where
  originModelName := "claude"
  requestURLPath := "/v1/chat/completions"
  requestHeaders := .empty
  isChannelTest := false
  relayFormat := some format
  estimatePromptTokens := 0
  priceData := claudePrice
  responsesUsageInfo := none
  requestConversionChain := [format]
  finalRequestRelayFormat := none
  retryIndex := 0
  lastError := none
  runtimeHeadersOverride := .empty
  useRuntimeHeadersOverride := false
  channelMeta := some ⟨channelType, "claude", .empty, .empty⟩

def usageOf (tokens : Tokens) (prompt : Int) (cost : Cost) : Usage :=
  ⟨prompt, tokens.completion, tokens.reads, tokens.writes, 0, 0, 0, 0, "", "", cost⟩

theorem provider_independent_quota_cached : (calculateTextQuotaSummary standardSettings noTools (answeredBy 1 .openAI)
        (some (usageOf ⟨172, 2432, 0, 383⟩ 2604 .absent))).quota =
      (calculateTextQuotaSummary standardSettings noTools (answeredBy 20 .claude)
        (some (usageOf ⟨172, 2432, 0, 383⟩ 2604 .absent))).quota := by
  refine provider_independent_quota standardSettings noTools ⟨172, 2432, 0, 383⟩ .openAI .openRouter _ _ _ _
    ⟨rfl, rfl, rfl⟩ ⟨by decide +kernel, ?_⟩ ⟨by decide +kernel, by decide +kernel, ?_⟩ trivial ?_
  · exact ⟨rfl, rfl, rfl, rfl, rfl, rfl, rfl, rfl⟩
  · exact ⟨rfl, rfl, rfl, rfl, rfl, rfl, rfl, rfl⟩
  · right; right; right
    decide +kernel

/-- A prompt that was read from the cache costs nothing in the Anthropic convention, and a cost above the list price
turns plain input tokens of OpenRouter into cache writes. -/
theorem forms_differ : ((calculateTextQuotaSummary standardSettings noTools (answeredBy 1 .openAI)
        (some (usageOf ⟨0, 1000, 0, 0⟩ 1000 .absent))).quota = 100 ∧
      (calculateTextQuotaSummary standardSettings noTools (answeredBy 14 .claude)
        (some (usageOf ⟨0, 1000, 0, 0⟩ 0 .absent))).quota = 0) ∧
    (calculateTextQuotaSummary standardSettings noTools (answeredBy 1 .openAI)
        (some (usageOf ⟨1000, 0, 0, 0⟩ 1000 .absent))).quota = 1000 ∧
      (calculateTextQuotaSummary standardSettings noTools (answeredBy 20 .claude)
        (some (usageOf ⟨1000, 0, 0, 0⟩ 1000 (.number (1 / 400))))).quota = 1250 := by
  refine ⟨⟨?_, ?_⟩, ?_, ?_⟩ <;> decide +kernel

end Tokengine.Relay
