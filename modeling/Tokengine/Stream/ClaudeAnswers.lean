import Tokengine.Stream.Convert

/-! The answers of a Claude channel for an OpenAI client, as a stream and as a whole. -/

namespace Tokengine.Stream.ClaudeAnswers
open List
open Relay (Usage)

inductive BlockStart
  | text (text : Option String)
  | toolUse (id name : String)
  | other
deriving DecidableEq

inductive BlockDelta
  | text (text : String)
  | inputJson (partialJson : String)
  | signature
  | thinking (thinking : String)
deriving DecidableEq

/-- `ClaudeResponse`, by its type; the other types are not converted. -/
inductive Event
  | messageStart (id model : String)
  | contentBlockStart (idx : Nat) (block : BlockStart)
  | contentBlockDelta (idx : Nat) (delta : BlockDelta)
  | messageDelta (stopReason : Option String)
  | other
deriving DecidableEq

/-- `ClaudeStopReasonToOpenAIFinishReason`. -/
def stopReasonClaude2OpenAI (reason : String) : String :=
  let lower := Text.toLower reason
  if lower = "stop_sequence" ∨ lower = "end_turn" then "stop"
  else if lower = "max_tokens" then "length"
  else if lower = "tool_use" then "tool_calls"
  else if lower = "refusal" then "content_filter"
  else reason

def single (delta : Delta) : Option Chunk := some { choices := [{ delta }] }

def streamResponseClaude2OpenAI : Event → Option Chunk
  | .messageStart id model => some { id, model, choices := [{ delta := { content := some "" } }] }
  | .contentBlockStart idx block =>
    let fcIdx := idx - 1
    match block with
    | .text text => single { content := text }
    | .toolUse id name => single { toolCalls := [⟨some fcIdx, id, name, ""⟩] }
    | .other => single {}
  | .contentBlockDelta idx delta =>
    let fcIdx := idx - 1
    match delta with
    | .text text => single { content := some text }
    | .inputJson partialJson => single { toolCalls := [⟨some fcIdx, "", "", partialJson⟩] }
    | .signature => single { reasoningContent := some "\n" }
    | .thinking thinking => single { reasoningContent := some thinking }
  | .messageDelta stopReason =>
    let finishReason := (stopReason.map stopReasonClaude2OpenAI).filter (· ≠ "null")
    some { choices := [{ finishReason }] }
  | .other => none

/-! ### Tool calls in the stream -/

/-- A block of a message with the fragments in which it is streamed. -/
inductive Block
  | text (fragments : List String)
  | thinking (fragments : List String)
  | toolUse (id name : String) (fragments : List String)
deriving DecidableEq

def Block.isTool : Block → Bool
  | .toolUse .. => true
  | _ => false

def Block.events (idx : Nat) : Block → List Event
  | .text fragments =>
    .contentBlockStart idx (.text (some "")) :: fragments.map (.contentBlockDelta idx <| .text ·) ++ [.other]
  | .thinking fragments =>
    .contentBlockStart idx .other :: fragments.map (.contentBlockDelta idx <| .thinking ·) ++
      [.contentBlockDelta idx .signature, .other]
  | .toolUse id name fragments =>
    .contentBlockStart idx (.toolUse id name) :: fragments.map (.contentBlockDelta idx <| .inputJson ·) ++ [.other]

def events (idx : Nat) : List Block → List Event
  | [] => []
  | block :: rest => block.events idx ++ events (idx + 1) rest

/-- The fragments of tool calls that the client receives. -/
def toolCalls (events : List Event) : List ToolCallResponse := events.flatMap fun event =>
  (streamResponseClaude2OpenAI event).toList.flatMap fun chunk => chunk.choices.flatMap fun choice => choice.delta.toolCalls

/-- The fragments of a tool call under its number. -/
def Block.toolCalls (number : Nat) : Block → List ToolCallResponse
  | .toolUse id name fragments => ⟨some number, id, name, ""⟩ :: fragments.map (⟨some number, "", "", ·⟩)
  | _ => []

/-- The fragments of all calls, numbered in the order of the blocks. -/
def numbered (number : Nat) : List Block → List ToolCallResponse
  | [] => []
  | block :: rest => block.toolCalls number ++ numbered (if block.isTool then number + 1 else number) rest

theorem toolCalls_block (idx : Nat) (block : Block) : toolCalls (block.events idx) = block.toolCalls (idx - 1) := by
  cases block <;> simp [toolCalls, Block.events, Block.toolCalls, streamResponseClaude2OpenAI, single, flatMap_map,
    ← map_eq_flatMap]

theorem toolCalls_events (idx : Nat) (block : Block) (rest : List Block) : toolCalls (events idx (block :: rest)) =
    block.toolCalls (idx - 1) ++ toolCalls (events (idx + 1) rest) := by
  rw [← toolCalls_block, events, toolCalls, flatMap_append]
  rfl

theorem append_toolCalls {id name : String} {fragments : List String} {number other : Nat} {rest rest' : List ToolCallResponse} :
    (Block.toolUse id name fragments).toolCalls number ++ rest = (Block.toolUse id name fragments).toolCalls other ++ rest' ↔
      number = other ∧ rest = rest' := by
  constructor
  · intro same
    obtain rfl : number = other := by
      simpa [Block.toolCalls] using congrArg (Option.map ToolCallResponse.index ∘ head?) same
    exact ⟨rfl, append_cancel_left same⟩
  · rintro ⟨rfl, rfl⟩
    rfl

theorem numbered_iff (idx number : Nat) (blocks : List Block) : toolCalls (events idx blocks) = numbered number blocks ↔
    ∀ place block, blocks[place]? = some block → block.isTool = true →
      idx + place - 1 = number + (blocks.take place).countP Block.isTool := by
  induction blocks generalizing idx number with
  | nil => simp [events, numbered, toolCalls]
  | cons first rest tail =>
    rw [← Nat.and_forall_add_one, toolCalls_events, numbered]
    simp only [getElem?_cons_succ, take_succ_cons, countP_cons]
    cases first with
    | text | thinking =>
      simp only [Block.toolCalls, nil_append, Block.isTool, Bool.false_eq_true, if_false, tail, Nat.add_zero,
        Nat.add_right_comm, Nat.add_assoc]
      simp
    | toolUse id name fragments =>
      rw [append_toolCalls, Block.isTool, if_pos rfl, tail]
      simp [Block.isTool, Nat.add_right_comm, Nat.add_assoc]

/-- A tool call has its own number in the stream exactly when its block is the first, or one block before it is no call. -/
theorem tool_calls_numbered_iff (blocks : List Block) : toolCalls (events 0 blocks) = numbered 0 blocks ↔
    ∀ place block, blocks[place]? = some block → block.isTool = true →
      place = 0 ∨ (blocks.take place).countP (!·.isTool) = 1 := by
  rw [numbered_iff]
  refine forall_congr' fun place => forall_congr' fun block => imp_congr_right fun found => imp_congr_right fun _ => ?_
  have length : (blocks.take place).length = place := length_take_of_le (List.getElem?_eq_some_iff.mp found).1.le
  have both := length_eq_countP_add_countP Block.isTool (l := blocks.take place)
  simp only [length, decide_not, Bool.decide_eq_true] at both
  omega

/-- Two calls without a block before them share the number 0. -/
theorem parallel_calls_collide : toolCalls (events 0 [.toolUse "1" "f" ["a"], .toolUse "2" "g" ["b"]]) =
    [⟨some 0, "1", "f", ""⟩, ⟨some 0, "", "", "a"⟩, ⟨some 0, "2", "g", ""⟩, ⟨some 0, "", "", "b"⟩] := by decide

/-! ### Complete answers -/

/-- A block of a complete answer; the input of a tool is the text it is marshalled to. -/
inductive ClaudeMediaMessage
  | text (text : String)
  | thinking (thinking : String)
  | toolUse (id name input : String)
deriving DecidableEq

def ClaudeMediaMessage.getText : ClaudeMediaMessage → String
  | .text said => said
  | _ => ""

structure Message where
  (content reasoningContent : String)
  toolCalls : List ToolCallResponse
deriving DecidableEq

def Message.take (answer : Message) : ClaudeMediaMessage → Message
  | .toolUse id name input => { answer with toolCalls := answer.toolCalls ++ [⟨none, id, name, input⟩] }
  | .thinking thinking => { answer with reasoningContent := thinking }
  | .text text => { answer with content := text }

def responseClaude2OpenAI (content : List ClaudeMediaMessage) : Message :=
  content.foldl Message.take ⟨(content.head?.map ClaudeMediaMessage.getText).getD "", "", []⟩

def texts : List ClaudeMediaMessage → List String
  | [] => []
  | .text text :: rest => text :: texts rest
  | _ :: rest => texts rest

def thinkings : List ClaudeMediaMessage → List String
  | [] => []
  | .thinking thinking :: rest => thinking :: thinkings rest
  | _ :: rest => thinkings rest

def calls : List ClaudeMediaMessage → List ToolCallResponse
  | [] => []
  | .toolUse id name input :: rest => ⟨none, id, name, input⟩ :: calls rest
  | _ :: rest => calls rest

theorem foldl_take (answer : Message) (content : List ClaudeMediaMessage) : content.foldl Message.take answer =
    ⟨(texts content).getLastD answer.content, (thinkings content).getLastD answer.reasoningContent,
      answer.toolCalls ++ calls content⟩ := by
  induction content generalizing answer with
  | nil => simp only [foldl_nil, texts, thinkings, calls, getLastD_nil, append_nil]
  | cons block rest tail =>
    rw [foldl_cons, tail]
    cases block <;> simp only [texts, thinkings, calls, Message.take, getLastD_cons, append_assoc, singleton_append]

theorem responseClaude2OpenAI_eq (content : List ClaudeMediaMessage) : responseClaude2OpenAI content =
    ⟨(texts content).getLastD "", (thinkings content).getLastD "", calls content⟩ := by
  rw [responseClaude2OpenAI, foldl_take]
  cases content with
  | nil => rfl
  | cons block rest => cases block <;> rfl

theorem getLastD_eq_join_iff (parts : List String) : parts.getLastD "" = String.join parts ↔ ∀ part ∈ parts.dropLast, part = "" := by
  rcases eq_nil_or_concat parts with rfl | ⟨before, last, rfl⟩
  · simp
  have empty : String.join before = "" ↔ ∀ part ∈ before, part = "" := by
    induction before with
    | nil => simp
    | cons part rest tail => simp [tail]
  rw [concat_eq_append, getLastD_concat, dropLast_concat, String.join_append, ← empty, String.join_cons, String.join_nil,
    String.append_empty]
  refine ⟨fun same => ?_, fun none => by rw [none, String.empty_append]⟩
  exact ((String.append_left_inj last).mp (String.empty_append.trans same)).symm

/-- An answer keeps its text and its reasoning exactly when only the last part of each is not empty. -/
theorem answer_kept_iff (content : List ClaudeMediaMessage) :
    responseClaude2OpenAI content = ⟨String.join (texts content), String.join (thinkings content), calls content⟩ ↔
      (∀ text ∈ (texts content).dropLast, text = "") ∧ ∀ thinking ∈ (thinkings content).dropLast, thinking = "" := by
  rw [responseClaude2OpenAI_eq, Message.mk.injEq, getLastD_eq_join_iff, getLastD_eq_join_iff, and_iff_left rfl]

theorem first_text_lost : responseClaude2OpenAI [.text "a", .toolUse "1" "f" "\x7b\x7d", .text "b"] =
    ⟨"b", "", [⟨none, "1", "f", "\x7b\x7d"⟩]⟩ := by decide

/-! ### Usage -/

def cacheCreationTokensForOpenAIUsage (usage : Usage) : Int :=
  let split := usage.claudeCacheCreation5mTokens + usage.claudeCacheCreation1hTokens
  if split = 0 ∨ split < usage.cachedCreationTokens then usage.cachedCreationTokens else split

def buildOpenAIStyleUsageFromClaudeUsage (usage : Usage) : Usage :=
  let split := normalizeCacheCreationSplit usage.cachedCreationTokens usage.claudeCacheCreation5mTokens
    usage.claudeCacheCreation1hTokens
  { usage with
    claudeCacheCreation5mTokens := split.1
    claudeCacheCreation1hTokens := split.2
    promptTokens := usage.promptTokens + usage.cachedTokens + cacheCreationTokensForOpenAIUsage usage
    usageSemantic := "openai"
    usageSource := "anthropic" }

def inputOf (usage : ClaudeUsage) : Int :=
  usage.inputTokens + usage.cacheReadInputTokens + usage.cacheCreationInputTokens

/-- Every input token is counted once in a usage that is converted either way or back. -/
structure CountedOnce (usage : Usage) : Prop where
  toOpenAI : (buildOpenAIStyleUsageFromClaudeUsage usage).promptTokens = usage.promptTokens + usage.cachedTokens +
    (buildOpenAIStyleUsageFromClaudeUsage usage).claudeCacheCreation5mTokens +
    (buildOpenAIStyleUsageFromClaudeUsage usage).claudeCacheCreation1hTokens
  toClaude : inputOf (buildClaudeUsageFromOpenAIUsage usage) = usage.promptTokens
  back : inputOf (buildClaudeUsageFromOpenAIUsage (buildOpenAIStyleUsageFromClaudeUsage usage)) =
    (buildOpenAIStyleUsageFromClaudeUsage usage).promptTokens

theorem cacheCreationTokens_eq_iff (usage : Usage) : cacheCreationTokensForOpenAIUsage usage =
      usage.claudeCacheCreation5mTokens + max (usage.cachedCreationTokens - usage.claudeCacheCreation5mTokens -
        usage.claudeCacheCreation1hTokens) 0 + usage.claudeCacheCreation1hTokens ↔
    (usage.claudeCacheCreation5mTokens + usage.claudeCacheCreation1hTokens = 0 → 0 ≤ usage.cachedCreationTokens) := by
  simp only [cacheCreationTokensForOpenAIUsage]
  split <;> omega

/-- Input is counted once exactly when no token of it is read from or written to a cache, no count being negative. -/
theorem counted_once_iff (usage : Usage) : CountedOnce usage ↔ usage.cachedTokens + usage.cachedCreationTokens = 0 ∧
    (usage.claudeCacheCreation5mTokens + usage.claudeCacheCreation1hTokens = 0 → 0 ≤ usage.cachedCreationTokens) := by
  have twice (usage : Usage) : inputOf (buildClaudeUsageFromOpenAIUsage usage) = usage.promptTokens ↔
      usage.cachedTokens + usage.cachedCreationTokens = 0 := by
    simp only [inputOf, buildClaudeUsageFromOpenAIUsage]
    omega
  rw [← cacheCreationTokens_eq_iff]
  constructor
  · rintro ⟨toOpenAI, toClaude, -⟩
    exact ⟨(twice usage).mp toClaude, Int.add_left_cancel (toOpenAI.trans (Int.add_assoc ..))⟩
  · rintro ⟨uncached, creation⟩
    have prompt := congrArg (usage.promptTokens + usage.cachedTokens + ·) creation
    exact ⟨prompt.trans (Int.add_assoc ..).symm, (twice usage).mpr uncached, (twice _).mpr uncached⟩

/-- Four of ten tokens come from a cache, and a Claude client is told of fourteen. -/
theorem cached_counted_twice :
    inputOf (buildClaudeUsageFromOpenAIUsage ⟨10, 5, 4, 0, 0, 0, 0, 0, "", "", .absent⟩) = 10 + 4 := by decide

/-! ### Billing -/

structure ServedUsage extends ClaudeUsage where
  webSearchRequests : Int

/-- What is billed: the usage with its total, and the web searches noted in the context. -/
structure Billed where
  usage : Usage
  (totalTokens webSearchRequests : Int)

def Usage.anthropic (usage : Usage) (claude : ClaudeUsage) : Usage :=
  { usage with
    promptTokens := claude.inputTokens
    completionTokens := claude.outputTokens
    usageSemantic := "anthropic"
    cachedTokens := claude.cacheReadInputTokens
    cachedCreationTokens := claude.cacheCreationInputTokens
    claudeCacheCreation5mTokens := (claude.cacheCreation.map Prod.fst).getD 0
    claudeCacheCreation1hTokens := (claude.cacheCreation.map Prod.snd).getD 0 }

def noUsage : Usage := ⟨0, 0, 0, 0, 0, 0, 0, 0, "", "", .absent⟩

def handleClaudeResponseData (claude : ServedUsage) : Billed where
  usage := Usage.anthropic noUsage claude.toClaudeUsage
  totalTokens := claude.inputTokens + claude.outputTokens
  webSearchRequests := if 0 < claude.webSearchRequests then claude.webSearchRequests else 0

structure ClaudeResponseInfo where
  usage : Usage := noUsage
  totalTokens : Int := 0
  responseText : String := ""
  done : Bool := false

inductive UsageEvent
  | messageStart (usage : ClaudeUsage)
  /-- The text or the thinking of a `content_block_delta`. -/
  | contentBlockDelta (text : String)
  | messageDelta (usage : ServedUsage)

def latest (reported cur : Int) : Int := if 0 < reported then reported else cur

def formatClaudeResponseInfo (info : ClaudeResponseInfo) : UsageEvent → ClaudeResponseInfo
  | .messageStart claude => { info with usage := Usage.anthropic info.usage claude }
  | .contentBlockDelta text => { info with responseText := info.responseText ++ text }
  | .messageDelta claude =>
    let usage := { info.usage with
      usageSemantic := "anthropic"
      promptTokens := latest claude.inputTokens info.usage.promptTokens
      cachedTokens := latest claude.cacheReadInputTokens info.usage.cachedTokens
      cachedCreationTokens := latest claude.cacheCreationInputTokens info.usage.cachedCreationTokens
      claudeCacheCreation5mTokens := latest ((claude.cacheCreation.map Prod.fst).getD 0) info.usage.claudeCacheCreation5mTokens
      claudeCacheCreation1hTokens := latest ((claude.cacheCreation.map Prod.snd).getD 0) info.usage.claudeCacheCreation1hTokens
      completionTokens := latest claude.outputTokens info.usage.completionTokens }
    { info with usage, totalTokens := usage.promptTokens + usage.completionTokens, done := true }

section

variable (countTokens : String → Int) (estimatePromptTokens : Int)

def handleStreamFinalResponse (info : ClaudeResponseInfo) : Billed :=
  if info.usage.completionTokens = 0 ∨ info.done = false then
    let fallback := countTokens info.responseText
    let completionTokens :=
      if info.usage.completionTokens = 0 ∨ info.done = false ∧ info.usage.completionTokens < fallback then fallback
      else info.usage.completionTokens
    let promptTokens := if info.usage.promptTokens = 0 then estimatePromptTokens else info.usage.promptTokens
    ⟨{ info.usage with promptTokens, completionTokens, usageSemantic := "anthropic" }, promptTokens + completionTokens, 0⟩
  else ⟨{ info.usage with usageSemantic := "anthropic" }, info.totalTokens, 0⟩

def claudeStreamHandler (events : List UsageEvent) : Billed :=
  handleStreamFinalResponse countTokens estimatePromptTokens (events.foldl formatClaudeResponseInfo {})

/-- The events of a message: the start has the input counters, and the end repeats them or not. -/
def streamOf (claude : ServedUsage) (early : Int) (pieces : List String) (repeats : Bool) : List UsageEvent :=
  .messageStart { claude.toClaudeUsage with outputTokens := early } :: pieces.map .contentBlockDelta ++
    [.messageDelta (if repeats then claude else ⟨⟨0, claude.outputTokens, 0, 0, none⟩, claude.webSearchRequests⟩)]

theorem foldl_pieces (info : ClaudeResponseInfo) (pieces : List String) :
    (pieces.map .contentBlockDelta).foldl formatClaudeResponseInfo info =
      { info with responseText := info.responseText ++ String.join pieces } := by
  induction pieces generalizing info with
  | nil => simp
  | cons piece rest tail => simp [tail, formatClaudeResponseInfo, String.append_assoc]

theorem latest_self (count : Int) : latest count count = count := ite_self count

theorem foldl_streamOf (claude : ServedUsage) (early : Int) (pieces : List String) (repeats : Bool) :
    (streamOf claude early pieces repeats).foldl formatClaudeResponseInfo {} =
      ⟨{ Usage.anthropic noUsage claude.toClaudeUsage with completionTokens := latest claude.outputTokens early },
        claude.inputTokens + latest claude.outputTokens early, String.join pieces, true⟩ := by
  rw [streamOf, cons_append, foldl_cons, foldl_append, foldl_pieces]
  cases repeats
  · simp [formatClaudeResponseInfo, Usage.anthropic, latest]
  · simp [formatClaudeResponseInfo, Usage.anthropic, latest_self]

/-- A stream is billed like the whole message exactly when the message made no web search, and reported output tokens or
an estimate of as many. -/
theorem stream_billed_alike_iff (claude : ServedUsage) (early : Int) (pieces : List String) (repeats : Bool) :
    claudeStreamHandler countTokens estimatePromptTokens (streamOf claude early pieces repeats) =
      handleClaudeResponseData claude ↔ claude.webSearchRequests ≤ 0 ∧ (claude.outputTokens ≤ 0 →
      if early = 0 then countTokens (String.join pieces) = claude.outputTokens ∧
        (claude.inputTokens = 0 → estimatePromptTokens = 0) else early = claude.outputTokens) := by
  rw [claudeStreamHandler, foldl_streamOf]
  simp only [handleStreamFinalResponse, handleClaudeResponseData, Usage.anthropic, latest]
  by_cases some : 0 < claude.outputTokens
  · simp only [some, if_true, Int.ne_of_gt some, false_or]
    simp
    omega
  · simp only [some, if_false]
    by_cases none : early = 0
    · by_cases empty : claude.inputTokens = 0 <;> simp [none, empty] <;> omega
    · simp [none]
      omega

/-- A message with two searches is billed without them when it is streamed. -/
theorem streamed_searches_free :
    (claudeStreamHandler (fun _ => 0) 0 (streamOf ⟨⟨3, 4, 0, 0, none⟩, 2⟩ 1 ["a"] true)).webSearchRequests = 0 ∧
    (handleClaudeResponseData ⟨⟨3, 4, 0, 0, none⟩, 2⟩).webSearchRequests = 2 := by decide

end

end Tokengine.Stream.ClaudeAnswers
