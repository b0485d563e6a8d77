import Tokengine.Lib.Transducer
import Tokengine.Relay.TextQuota

/-! The stream of an OpenAI channel for a Claude client: every chunk of the upstream is converted into events of the
client's protocol. -/

namespace Tokengine.Stream
open Text Transducer
open Relay (Usage)

/-! ### Chunks -/

structure ToolCallResponse where
  index : Option Nat
  (id name arguments : String)
deriving DecidableEq

structure Delta where
  content : Option String := none
  reasoningContent : Option String := none
  reasoning : Option String := none
  toolCalls : List ToolCallResponse := []
deriving DecidableEq

def Delta.getContentString (delta : Delta) : String := delta.content.getD ""

def Delta.getReasoningContent (delta : Delta) : String := (delta.reasoningContent.or delta.reasoning).getD ""

structure Choice where
  delta : Delta := {}
  finishReason : Option String := none
deriving DecidableEq

/-- `ChatCompletionsStreamResponse`. -/
structure Chunk where
  id : String := ""
  model : String := ""
  choices : List Choice
  usage : Option Usage := none
deriving DecidableEq

def Choice.finished (choice : Choice) : Option String :=
  match choice.finishReason with
  | none => none
  | some reason => if reason = "" then none else some reason

/-! ### Events -/

inductive ContentBlock
  | toolUse (id name : String)
  | thinking
  | text
deriving DecidableEq

inductive BlockDelta
  | inputJson (partialJson : String)
  | thinking (thinking : String)
  | text (text : String)
deriving DecidableEq

structure ClaudeUsage where
  (inputTokens outputTokens cacheCreationInputTokens cacheReadInputTokens : Int)
  /-- The tokens for five minutes and for an hour. -/
  cacheCreation : Option (Int × Int)
deriving DecidableEq

/-- `ClaudeResponse`, by its type. -/
inductive ClaudeEvent
  | messageStart (id model : String) (inputTokens : Int)
  | contentBlockStart (idx : Nat) (block : ContentBlock)
  | contentBlockDelta (idx : Nat) (delta : BlockDelta)
  | contentBlockStop (idx : Nat)
  | messageDelta (stopReason : String) (usage : ClaudeUsage)
  | messageStop
deriving DecidableEq

def normalizeCacheCreationSplit (totalTokens tokens5m tokens1h : Int) : Int × Int :=
  (tokens5m + max (totalTokens - tokens5m - tokens1h) 0, tokens1h)

def buildClaudeUsageFromOpenAIUsage (usage : Usage) : ClaudeUsage :=
  let split := normalizeCacheCreationSplit usage.cachedCreationTokens usage.claudeCacheCreation5mTokens
    usage.claudeCacheCreation1hTokens
  { inputTokens := usage.promptTokens
    outputTokens := usage.completionTokens
    cacheCreationInputTokens := usage.cachedCreationTokens
    cacheReadInputTokens := usage.cachedTokens
    cacheCreation := if 0 < split.1 ∨ 0 < split.2 then some split else none }

/-- `OpenAIFinishReasonToClaudeStopReason`. -/
def stopReasonOpenAI2Claude (reason : String) : String :=
  let lower := toLower reason
  if lower = "stop" then "end_turn"
  else if lower = "stop_sequence" then "stop_sequence"
  else if lower = "length" ∨ lower = "max_tokens" then "max_tokens"
  else if lower = "content_filter" then "refusal"
  else if lower = "tool_calls" then "tool_use"
  else reason

/-! ### `StreamResponseOpenAI2Claude` -/

inductive LastMessageType
  | none
  | text
  | tools
  | thinking
deriving DecidableEq

/-- What the converter reads and writes of `RelayInfo` and `ClaudeConvertInfo`. -/
structure Info where
  estimatePromptTokens : Int := 0
  sendResponseCount : Nat := 0
  finishReason : String := ""
  lastMessagesType : LastMessageType := .none
  index : Nat := 0
  usage : Option Usage := none
  done : Bool := false
  toolCallBaseIndex : Nat := 0
  toolCallMaxIndexOffset : Nat := 0

def stopOpenBlocks (info : Info) : List ClaudeEvent :=
  match info.lastMessagesType with
  | .none => []
  | .text | .thinking => [.contentBlockStop info.index]
  | .tools => (List.range (info.toolCallMaxIndexOffset + 1)).map fun offset =>
      .contentBlockStop (info.toolCallBaseIndex + offset)

/-- The state after `stopOpenBlocksAndAdvance`, whose events are those of `stopOpenBlocks`. -/
def advance (info : Info) : Info :=
  match info.lastMessagesType with
  | .none => info
  | .tools => { info with
      index := info.toolCallBaseIndex + info.toolCallMaxIndexOffset + 1
      toolCallBaseIndex := 0
      toolCallMaxIndexOffset := 0
      lastMessagesType := .none }
  | .text | .thinking => { info with index := info.index + 1, lastMessagesType := .none }

def stopOthers (type : LastMessageType) (info : Info) : List ClaudeEvent :=
  if info.lastMessagesType = type then [] else stopOpenBlocks info

inductive Piece
  | thinking (said : String)
  | text (said : String)

def Piece.type : Piece → LastMessageType
  | .thinking _ => .thinking
  | .text _ => .text

def Piece.block : Piece → ContentBlock
  | .thinking _ => .thinking
  | .text _ => .text

def Piece.delta : Piece → BlockDelta
  | .thinking said => .thinking said
  | .text said => .text said

def Delta.piece (delta : Delta) : Option Piece :=
  if delta.getReasoningContent ≠ "" then some (.thinking delta.getReasoningContent)
  else if delta.getContentString ≠ "" then some (.text delta.getContentString)
  else none

/-- `message_delta`, where the usage is known. -/
def summary (reason : String) (usage : Option Usage) : List ClaudeEvent :=
  match usage with
  | none => []
  | some usage => [.messageDelta reason (buildClaudeUsageFromOpenAIUsage usage)]

def firstToolCall (delta : Delta) (info : Info) : List ClaudeEvent × Info :=
  match delta.toolCalls with
  | [] => ([], info)
  | toolCall :: _ =>
    (.contentBlockStart 0 (.toolUse toolCall.id toolCall.name) ::
        (if toolCall.arguments ≠ "" then [.contentBlockDelta 0 (.inputJson toolCall.arguments)] else []),
      { info with lastMessagesType := .tools, toolCallBaseIndex := 0, toolCallMaxIndexOffset := 0 })

def firstPiece (piece : Piece) (info : Info) : List ClaudeEvent × Info :=
  let moved := if info.lastMessagesType = piece.type then info else advance info
  (stopOthers piece.type info ++
      [.contentBlockStart moved.index piece.block, .contentBlockDelta moved.index piece.delta],
    { moved with lastMessagesType := piece.type })

def firstContent (delta : Delta) (info : Info) : List ClaudeEvent × Info :=
  match delta.piece with
  | none => ([], info)
  | some piece => firstPiece piece info

def firstFinish (chunk : Chunk) (choice : Choice) (info : Info) : List ClaudeEvent × Info :=
  match choice.finished with
  | none => ([], info)
  | some reason =>
    (stopOpenBlocks info ++ summary (stopReasonOpenAI2Claude reason) (chunk.usage.or info.usage) ++ [.messageStop],
      { info with finishReason := reason, done := true })

def firstChunk (chunk : Chunk) (info : Info) : List ClaudeEvent × Info :=
  let start := ClaudeEvent.messageStart chunk.id chunk.model info.estimatePromptTokens
  match chunk.choices with
  | [] => ([start], info)
  | choice :: _ =>
    let tool := firstToolCall choice.delta info
    let content := firstContent choice.delta tool.2
    let finish := firstFinish chunk choice content.2
    (start :: tool.1 ++ content.1 ++ finish.1, finish.2)

/-- The position of a tool call among the tool calls of the message; `i` is its position in the chunk. -/
def ToolCallResponse.offset (toolCall : ToolCallResponse) (i : Nat) : Nat := toolCall.index.getD i

def toolCallEvents (blockIndex : Nat) (toolCall : ToolCallResponse) : List ClaudeEvent :=
  (if toolCall.name ≠ "" then [.contentBlockStart blockIndex (.toolUse toolCall.id toolCall.name)] else []) ++
    (if toolCall.arguments ≠ "" then [.contentBlockDelta blockIndex (.inputJson toolCall.arguments)] else [])

def toolLoop (base : Nat) : Nat → Nat → List ToolCallResponse → List ClaudeEvent × Nat
  | _, maxOffset, [] => ([], maxOffset)
  | i, maxOffset, toolCall :: rest =>
    let offset := toolCall.offset i
    let later := toolLoop base (i + 1) (if maxOffset < offset then offset else maxOffset) rest
    (toolCallEvents (base + offset) toolCall ++ later.1, later.2)

def enterTools (info : Info) : Info :=
  if info.lastMessagesType = .tools then info
  else { advance info with
    toolCallBaseIndex := (advance info).index
    toolCallMaxIndexOffset := 0
    lastMessagesType := .tools }

def laterTools (toolCalls : List ToolCallResponse) (info : Info) : List ClaudeEvent × Info :=
  let entered := enterTools info
  let loop := toolLoop entered.toolCallBaseIndex 0 entered.toolCallMaxIndexOffset toolCalls
  (stopOthers .tools info ++ loop.1,
    { entered with toolCallMaxIndexOffset := loop.2, index := entered.toolCallBaseIndex + loop.2 })

def laterPiece (piece : Piece) (info : Info) : List ClaudeEvent × Info :=
  if info.lastMessagesType = piece.type then ([.contentBlockDelta info.index piece.delta], info)
  else
    let moved := advance info
    (stopOpenBlocks info ++
        [.contentBlockStart moved.index piece.block, .contentBlockDelta moved.index piece.delta],
      { moved with lastMessagesType := piece.type })

def laterContent (delta : Delta) (info : Info) : List ClaudeEvent × Info :=
  if delta.toolCalls ≠ [] then laterTools delta.toolCalls info
  else
    match delta.piece with
    | none => ([], info)
    | some piece => laterPiece piece info

def usageChunk (chunk : Chunk) (info : Info) : List ClaudeEvent × Info :=
  match chunk.usage.or info.usage with
  | none => ([], info)
  | some usage =>
    let mapped := stopReasonOpenAI2Claude info.finishReason
    let stopReason := if mapped = "" then "end_turn" else mapped
    (stopOpenBlocks info ++ [.messageDelta stopReason (buildClaudeUsageFromOpenAIUsage usage), .messageStop],
      { info with done := true })

def laterChunk (chunk : Chunk) (info : Info) : List ClaudeEvent × Info :=
  match chunk.choices with
  | [] => usageChunk chunk info
  | chosenChoice :: _ =>
    match chosenChoice.finished with
    | none => laterContent chosenChoice.delta info
    | some reason =>
      let info := { info with finishReason := reason }
      -- closing is left to a later chunk with the usage
      if chunk.usage = none then ([], info)
      else
        let content := laterContent chosenChoice.delta info
        (content.1 ++ (stopOpenBlocks content.2 ++
            summary (stopReasonOpenAI2Claude content.2.finishReason) (chunk.usage.or content.2.usage) ++ [.messageStop]),
          { content.2 with done := true })

def streamResponseOpenAI2Claude (chunk : Chunk) (info : Info) : List ClaudeEvent × Info :=
  if info.done then ([], info)
  else if info.sendResponseCount = 1 then firstChunk chunk info
  else laterChunk chunk info

/-! ### `OaiStreamHandler` -/

def handleClaudeFormat (chunk : Chunk) (info : Info) : List ClaudeEvent × Info :=
  streamResponseOpenAI2Claude chunk { info with usage := chunk.usage.or info.usage }

def handleStreamFormat (info : Info) (chunk : Chunk) : List ClaudeEvent × Info :=
  handleClaudeFormat chunk { info with sendResponseCount := info.sendResponseCount + 1 }

structure Upstream where
  isAudioModel : Bool
  /-- `ResponseText2Usage` with the tokens for the tools. -/
  estimateUsage : List Chunk → Usage
  applyUsagePostProcessing : Usage → Chunk → Usage

/-- The variables of `OaiStreamHandler` during the scan. -/
structure Scan where
  info : Info
  lastStreamData : Option Chunk := none
  secondLastStreamData : Option Chunk := none
  streamItems : List Chunk := []

def dataHandler (upstream : Upstream) (scan : Scan) (data : Chunk) : List ClaudeEvent × Scan :=
  let sent := match scan.lastStreamData with
    | none => ([], scan.info)
    | some last => handleStreamFormat scan.info last
  (sent.1,
    { info := sent.2
      lastStreamData := some data
      secondLastStreamData := if upstream.isAudioModel then scan.lastStreamData.or scan.secondLastStreamData
        else scan.secondLastStreamData
      streamItems := scan.streamItems ++ [data] })

def validUsage (usage : Option Usage) : Option Usage :=
  usage.filter fun usage => usage.promptTokens ≠ 0 || usage.completionTokens ≠ 0

def finalUsage (upstream : Upstream) (scan : Scan) (last : Chunk) : Usage :=
  let audio := if upstream.isAudioModel then validUsage (scan.secondLastStreamData.bind Chunk.usage) else none
  let contained := (validUsage last.usage).or audio
  upstream.applyUsagePostProcessing (contained.getD (upstream.estimateUsage scan.streamItems)) last

/-- The Claude branch of `HandleFinalResponse`. -/
def handleFinalResponse (last : Chunk) (usage : Usage) (info : Info) : List ClaudeEvent × Info :=
  let sent := streamResponseOpenAI2Claude last { info with usage := some usage }
  (sent.1, { sent.2 with done := true })

/-- `OaiStreamHandler` for a Claude client. -/
def oaiStreamHandler (upstream : Upstream) (info : Info) (chunks : List Chunk) : List ClaudeEvent × Info :=
  let scanned := run (dataHandler upstream) { info := info } chunks
  match scanned.2.lastStreamData with
  | none => (scanned.1, scanned.2.info)
  | some last =>
    let final := handleFinalResponse last (finalUsage upstream scanned.2 last) scanned.2.info
    (scanned.1 ++ final.1, final.2)

end Tokengine.Stream
