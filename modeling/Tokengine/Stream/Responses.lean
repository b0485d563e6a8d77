import Tokengine.Relay.Retry
import Tokengine.Stream.Calls

/-! The stream of a channel that answers with events of the Responses protocol. The handler makes chat chunks of them, which
an OpenAI client gets as they are and a Claude client as converted events. -/

namespace Tokengine.Stream
open Text Transducer
open Relay (Usage)
open Relay.Retry (NewAPIError)

/-! ### Events of the upstream -/

/-- The types of `ResponsesStreamResponse` that the handler knows. -/
inductive ResponsesType
  | created
  | reasoningSummaryTextDelta
  | reasoningSummaryTextDone
  | outputTextDelta
  | outputItemAdded
  | outputItemDone
  | functionCallArgumentsDelta
  | completed
  | error
  | failed
  | other
deriving DecidableEq

structure OpenAIError where
  (message type : String)
  code : Option String
deriving DecidableEq

structure InputTokensDetails where
  (cachedTokens imageTokens audioTokens : Int)
deriving DecidableEq

structure ResponsesUsage where
  (inputTokens outputTokens totalTokens : Int)
  inputTokensDetails : Option InputTokensDetails
deriving DecidableEq

structure ResponsesResponse where
  model : String := ""
  usage : Option ResponsesUsage := none
  /-- `GetOpenAIError`. -/
  error : Option OpenAIError := none
deriving DecidableEq

structure ResponsesItem where
  (type id callId name arguments : String)
deriving DecidableEq

/-- `ResponsesStreamResponse`. -/
structure ResponsesEvent where
  type : ResponsesType
  response : Option ResponsesResponse := none
  delta : String := ""
  item : Option ResponsesItem := none
  itemID : String := ""
deriving DecidableEq

def withOpenAIError (err : OpenAIError) (statusCode : Int) : NewAPIError :=
  ⟨err.message, err.code.getD "unknown_error", false, statusCode⟩

def ResponsesEvent.streamErr (event : ResponsesEvent) : Option NewAPIError :=
  let reported := (event.response.bind ResponsesResponse.error).filter fun err => err.type ≠ ""
  match event.type with
  | .error => some ((reported.map fun err => withOpenAIError err 500).getD
      ⟨"responses stream error: response.error", "bad_response", false, 500⟩)
  | .failed => some ((reported.map fun err => withOpenAIError err 500).getD
      ⟨"responses stream error: response.failed", "bad_response", false, 500⟩)
  | _ => none

/-! ### The handler -/

inductive RelayFormat
  | openAI
  | claude
deriving DecidableEq

inductive Written
  | chunk (chunk : Chunk)
  | event (event : ClaudeEvent)
  | done
deriving DecidableEq

abbrev StringMap (α : Type) := Table (Prod.fst : String × α → String)

def StringMap.get {α : Type} (map : StringMap α) (key : String) : Option α := (map.lookup key).map Prod.snd

structure Channel where
  format : RelayFormat
  responseId : String
  shouldIncludeUsage : Bool
  /-- `ResponseText2Usage`. -/
  estimateUsage : String → Usage

/-- The variables of `OaiResponsesToChatStreamHandler`. -/
structure Handler where
  info : Info
  model : String
  usage : Usage := ⟨0, 0, 0, 0, 0, 0, 0, 0, "", "", .absent⟩
  totalTokens : Int := 0
  outputText : String := ""
  usageText : String := ""
  sentStart : Bool := false
  sentStop : Bool := false
  sawToolCall : Bool := false
  toolCallIndexByID : StringMap Nat := .empty
  toolCallNameByID : StringMap String := .empty
  toolCallArgsByID : StringMap String := .empty
  toolCallNameSent : StringMap Bool := .empty
  toolCallCanonicalIDByItemID : StringMap String := .empty
  hasSentReasoningSummary : Bool := false
  needsReasoningSummarySeparator : Bool := false

def andThen {σ ω : Type} (first : List ω × σ) (next : σ → List ω × σ) : List ω × σ :=
  (first.1 ++ (next first.2).1, (next first.2).2)

def sendChatChunk (ch : Channel) (chunk : Chunk) (handler : Handler) : List Written × Handler :=
  match ch.format with
  | .openAI => ([.chunk chunk], handler)
  | .claude =>
    let sent := handleStreamFormat handler.info chunk
    (sent.1.map .event, { handler with info := sent.2 })

def generateStartEmptyResponse (id model : String) : Chunk where
  id := id
  model := model
  choices := [{ delta := { content := some "" } }]

def generateStopResponse (id model finishReason : String) : Chunk where
  id := id
  model := model
  choices := [{ finishReason := some finishReason }]

def generateFinalUsageResponse (id model : String) (usage : Usage) : Chunk where
  id := id
  model := model
  choices := []
  usage := some usage

def deltaChunk (ch : Channel) (handler : Handler) (delta : Delta) : Chunk where
  id := ch.responseId
  model := handler.model
  choices := [{ delta := delta }]

def sendStartIfNeeded (ch : Channel) (handler : Handler) : List Written × Handler :=
  if handler.sentStart then ([], handler)
  else
    andThen (sendChatChunk ch (generateStartEmptyResponse ch.responseId handler.model) handler)
      fun handler => ([], { handler with sentStart := true })

def separated (needed : Bool) (delta : String) : String :=
  if needed = false then delta
  else if hasPrefix delta "\n\n" then delta
  else if hasPrefix delta "\n" then "\n" ++ delta
  else "\n\n" ++ delta

def sendReasoningSummaryDelta (ch : Channel) (delta : String) (handler : Handler) : List Written × Handler :=
  if delta = "" then ([], handler)
  else
    let delta := separated handler.needsReasoningSummarySeparator delta
    andThen (sendStartIfNeeded ch { handler with needsReasoningSummarySeparator := false }) fun handler =>
      andThen (sendChatChunk ch (deltaChunk ch handler { reasoningContent := some delta })
          { handler with usageText := handler.usageText ++ delta })
        fun handler => ([], { handler with hasSentReasoningSummary := true })

def toolFragment (callID name argsDelta : String) (handler : Handler) : ToolCallResponse × Handler :=
  let idx := (handler.toolCallIndexByID.get callID).getD handler.toolCallIndexByID.rows.length
  let names := if name ≠ "" then handler.toolCallNameByID.save (callID, name) else handler.toolCallNameByID
  let known := (StringMap.get names callID).getD ""
  let name := if known ≠ "" then known else name
  let unsent := name ≠ "" ∧ (handler.toolCallNameSent.get callID).getD false = false
  (⟨some idx, callID, if unsent then name else "", argsDelta⟩,
    { handler with
      toolCallIndexByID := handler.toolCallIndexByID.save (callID, idx)
      toolCallNameByID := names
      toolCallNameSent := if unsent then handler.toolCallNameSent.save (callID, true) else handler.toolCallNameSent })

def sendToolCallDelta (ch : Channel) (callID name argsDelta : String) (handler : Handler) : List Written × Handler :=
  if callID = "" then ([], handler)
  else if handler.outputText ≠ "" then ([], handler)
  else
    andThen (sendStartIfNeeded ch handler) fun handler =>
      let fragment := toolFragment callID name argsDelta handler
      andThen (sendChatChunk ch (deltaChunk ch handler { toolCalls := [fragment.1] }) fragment.2) fun handler =>
        ([], { handler with sawToolCall := true, usageText := handler.usageText ++ fragment.1.name ++ argsDelta })

def reportedModel (event : ResponsesEvent) (model : String) : String :=
  match event.response with
  | none => model
  | some resp => if resp.model ≠ "" then resp.model else model

def sendOutputText (ch : Channel) (delta : String) (handler : Handler) : List Written × Handler :=
  andThen (sendStartIfNeeded ch handler) fun handler =>
    if delta = "" then ([], handler)
    else
      sendChatChunk ch (deltaChunk ch handler { content := some delta })
        { handler with outputText := handler.outputText ++ delta, usageText := handler.usageText ++ delta }

def argsDelta (newArgs prevArgs : String) : String := trimPrefix newArgs prevArgs

def handleItem (ch : Channel) (item : ResponsesItem) (handler : Handler) : List Written × Handler :=
  if item.type ≠ "function_call" then ([], handler)
  else
    let itemID := trimSpace item.id
    let callID := if trimSpace item.callId = "" then itemID else trimSpace item.callId
    let name := trimSpace item.name
    let prevArgs := (handler.toolCallArgsByID.get callID).getD ""
    let delta := if item.arguments ≠ "" then argsDelta item.arguments prevArgs else ""
    sendToolCallDelta ch callID name delta { handler with
      toolCallCanonicalIDByItemID := if itemID ≠ "" ∧ callID ≠ ""
        then handler.toolCallCanonicalIDByItemID.save (itemID, callID) else handler.toolCallCanonicalIDByItemID
      toolCallNameByID := if name ≠ "" then handler.toolCallNameByID.save (callID, name) else handler.toolCallNameByID
      toolCallArgsByID := if item.arguments ≠ "" then handler.toolCallArgsByID.save (callID, item.arguments)
        else handler.toolCallArgsByID }

def handleOutputItem (ch : Channel) (event : ResponsesEvent) (handler : Handler) : List Written × Handler :=
  match event.item with
  | none => ([], handler)
  | some item => handleItem ch item handler

def handleArguments (ch : Channel) (event : ResponsesEvent) (handler : Handler) : List Written × Handler :=
  let itemID := trimSpace event.itemID
  let canonical := (handler.toolCallCanonicalIDByItemID.get itemID).getD ""
  let callID := if canonical = "" then itemID else canonical
  if callID = "" then ([], handler)
  else
    let args := (handler.toolCallArgsByID.get callID).getD "" ++ event.delta
    sendToolCallDelta ch callID "" event.delta
      { handler with toolCallArgsByID := handler.toolCallArgsByID.save (callID, args) }

/-- The usage of `response.completed`. -/
def takeUsage (reported : ResponsesUsage) (handler : Handler) : Handler :=
  let prompt := if reported.inputTokens ≠ 0 then reported.inputTokens else handler.usage.promptTokens
  let completion := if reported.outputTokens ≠ 0 then reported.outputTokens else handler.usage.completionTokens
  let usage := { handler.usage with promptTokens := prompt, completionTokens := completion }
  { handler with
    totalTokens := if reported.totalTokens ≠ 0 then reported.totalTokens else prompt + completion
    usage := match reported.inputTokensDetails with
      | none => usage
      | some details => { usage with
          cachedTokens := details.cachedTokens
          imageTokens := details.imageTokens
          audioTokens := details.audioTokens } }

def sendStop (ch : Channel) (handler : Handler) : List Written × Handler :=
  let finishReason := if handler.sawToolCall = true ∧ handler.outputText = "" then "tool_calls" else "stop"
  let stop := generateStopResponse ch.responseId handler.model finishReason
  match ch.format with
  | .claude => sendChatChunk ch stop { handler with info := { handler.info with usage := some handler.usage } }
  | .openAI => sendChatChunk ch stop handler

/-- The model and the usage that `response.completed` reports. -/
def takeReport (event : ResponsesEvent) (handler : Handler) : Handler :=
  match event.response.bind ResponsesResponse.usage with
  | none => { handler with model := reportedModel event handler.model }
  | some usage => takeUsage usage { handler with model := reportedModel event handler.model }

def handleCompleted (ch : Channel) (event : ResponsesEvent) (handler : Handler) : List Written × Handler :=
  andThen (sendStartIfNeeded ch (takeReport event handler)) fun handler =>
    if handler.sentStop then ([], handler)
    else andThen (sendStop ch handler) fun handler => ([], { handler with sentStop := true })

def onEvent (ch : Channel) (handler : Handler) (event : ResponsesEvent) : List Written × Handler :=
  match event.type with
  | .created => ([], { handler with model := reportedModel event handler.model })
  | .reasoningSummaryTextDelta => sendReasoningSummaryDelta ch event.delta handler
  | .reasoningSummaryTextDone => ([], if handler.hasSentReasoningSummary
      then { handler with needsReasoningSummarySeparator := true } else handler)
  | .outputTextDelta => sendOutputText ch event.delta handler
  | .outputItemAdded | .outputItemDone => handleOutputItem ch event handler
  | .functionCallArgumentsDelta => handleArguments ch event handler
  | .completed => handleCompleted ch event handler
  | .error | .failed | .other => ([], handler)

def untilError : List ResponsesEvent → List ResponsesEvent × Option NewAPIError
  | [] => ([], none)
  | event :: rest =>
    match event.streamErr with
    | some err => ([], some err)
    | none => (event :: (untilError rest).1, (untilError rest).2)

def withUsage (ch : Channel) (handler : Handler) : Handler :=
  if handler.totalTokens = 0 then { handler with usage := ch.estimateUsage handler.usageText } else handler

def lastLines (ch : Channel) (handler : Handler) : List Written :=
  match ch.format with
  | .claude => []
  | .openAI =>
    let usage := Written.chunk (generateFinalUsageResponse ch.responseId handler.model handler.usage)
    if ch.shouldIncludeUsage then [usage, .done] else [.done]

def finishStream (ch : Channel) (handler : Handler) : List Written × Handler :=
  andThen (sendStartIfNeeded ch (withUsage ch handler)) fun handler =>
    andThen (if handler.sentStop then ([], handler) else sendStop ch handler) fun handler =>
      (lastLines ch handler, handler)

/-- `OaiResponsesToChatStreamHandler`: what is written, and the error that is returned. -/
def oaiResponsesToChatStreamHandler (ch : Channel) (info : Info) (model : String) (events : List ResponsesEvent) :
    List Written × Option NewAPIError :=
  let read := untilError events
  let scanned := run (onEvent ch) { info := info, model := model } read.1
  match read.2 with
  | some err => (scanned.1, some err)
  | none => (scanned.1 ++ (finishStream ch scanned.2).1, none)

end Tokengine.Stream
