import Tokengine.Stream.Delivery
import Tokengine.Stream.Responses

/-! The stream of an OpenAI channel for an OpenAI client: every payload of the upstream is passed on when the next one comes,
and the last one is judged by itself. With `ThinkingToContent` the reasoning becomes content between two tags. -/

namespace Tokengine.Stream
open Transducer List
open Relay (Usage)

def Delta.say (content : String) (delta : Delta) : Delta :=
  { delta with content := some content, reasoningContent := none, reasoning := none }

def Chunk.say (content : String) (chunk : Chunk) : Chunk :=
  { chunk with choices := chunk.choices.map fun choice => { choice with delta := choice.delta.say content } }

/-- The conversion in place; `quiet` chunks have neither reasoning nor content. -/
def Choice.convert (quiet : Bool) (choice : Choice) : Choice :=
  if choice.delta.getReasoningContent ≠ "" then { choice with delta := choice.delta.say choice.delta.getReasoningContent }
  else if quiet then { choice with delta := { choice.delta with reasoningContent := none, reasoning := none } }
  else choice

def Chunk.hasContent (chunk : Chunk) : Bool := chunk.choices.any fun choice => choice.delta.getContentString ≠ ""

def Chunk.hasThinkingContent (chunk : Chunk) : Bool := chunk.choices.any fun choice => choice.delta.getReasoningContent ≠ ""

namespace OpenAIClient

structure ThinkingContentInfo where
  isFirstThinkingContent : Bool := true
  sendLastThinkingContent : Bool := false
  hasSentThinkingContent : Bool := false

/-- The part of `sendStreamData` for `thinkToContent`. -/
def thinkToContent (thinking : ThinkingContentInfo) (chunk : Chunk) : List Chunk × ThinkingContentInfo :=
  if thinking.isFirstThinkingContent && chunk.hasThinkingContent then
    ([chunk.say ("<think>\n" ++ String.join (chunk.choices.map fun choice => choice.delta.getReasoningContent))],
      { thinking with isFirstThinkingContent := false, hasSentThinkingContent := true })
  else
    let closes := chunk.hasContent && !thinking.sendLastThinkingContent && thinking.hasSentThinkingContent
    ((if closes then [chunk.say "\n</think>\n"] else []) ++
        [{ chunk with choices := chunk.choices.map (Choice.convert (!chunk.hasThinkingContent && !chunk.hasContent)) }],
      { thinking with sendLastThinkingContent := thinking.sendLastThinkingContent || closes })

/-- The data of a line of the upstream, and the chunk that it decodes to. -/
structure Payload where
  data : String
  chunk : Option Chunk
deriving DecidableEq

inductive Line
  | payload (payload : Payload)
  | object (chunk : Chunk)
  | done

structure Setting where
  forceFormat : Bool := false
  thinkingToContent : Bool := false
  shouldIncludeUsage : Bool := false
  isAudioModel : Bool := false
  upstreamModelName : String := ""
  /-- The usage of the whole stream, where the upstream reports none. -/
  estimateUsage : List Payload → Usage

def sendStreamData (setting : Setting) (thinking : ThinkingContentInfo) (payload : Payload) :
    List Line × ThinkingContentInfo :=
  if payload.data = "" then ([], thinking)
  else if setting.forceFormat = false ∧ setting.thinkingToContent = false then ([.payload payload], thinking)
  else
    match payload.chunk with
    | none => ([], thinking)
    | some chunk =>
      if setting.thinkingToContent = false then ([.object chunk], thinking)
      else ((thinkToContent thinking chunk).1.map .object, (thinkToContent thinking chunk).2)

/-- The variables of `OaiStreamHandler` during the scan. -/
structure Scan where
  thinking : ThinkingContentInfo := {}
  lastStreamData : Payload := ⟨"", none⟩
  secondLastStreamData : Payload := ⟨"", none⟩
  streamItems : List Payload := []

def dataHandler (setting : Setting) (scan : Scan) (payload : Payload) : List Line × Scan :=
  let sent := sendStreamData setting scan.thinking scan.lastStreamData
  if payload.data = "" then (sent.1, { scan with thinking := sent.2 })
  else (sent.1,
    { thinking := sent.2
      lastStreamData := payload
      secondLastStreamData := if setting.isAudioModel = true ∧ scan.lastStreamData.data ≠ "" then scan.lastStreamData
        else scan.secondLastStreamData
      streamItems := scan.streamItems ++ [payload] })

def Payload.reported (payload : Payload) : Option Usage := validUsage (payload.chunk.bind Chunk.usage)

def shouldSendLastResp (setting : Setting) (last : Payload) : Bool :=
  match last.chunk with
  | none => true
  | some chunk => if last.reported ≠ none ∧ setting.shouldIncludeUsage = false then chunk.hasContent || chunk.hasThinkingContent
    else true

/-- The OpenAI branch of `HandleFinalResponse`. -/
def handleFinalResponse (setting : Setting) (scan : Scan) : List Line :=
  let contained := scan.lastStreamData.reported.isSome || setting.isAudioModel && scan.secondLastStreamData.reported.isSome
  let last := scan.lastStreamData.chunk
  if setting.shouldIncludeUsage && !contained then
    [.object (generateFinalUsageResponse ((last.map Chunk.id).getD "") ((last.map Chunk.model).getD setting.upstreamModelName)
      (setting.estimateUsage scan.streamItems)), .done]
  else [.done]

def finish (setting : Setting) (scanned : List Line × Scan) : List Line :=
  let last := scanned.2.lastStreamData
  scanned.1 ++ (if shouldSendLastResp setting last then (sendStreamData setting scanned.2.thinking last).1 else []) ++
    handleFinalResponse setting scanned.2

def Payload.full (payload : Payload) : Bool := payload.data ≠ ""

/-- `OaiStreamHandler` for an OpenAI client; the scanner leaves out lines without data. -/
def oaiStreamHandler (setting : Setting) (payloads : List Payload) : List Line :=
  finish setting (run (dataHandler setting) {} (payloads.filter Payload.full))

/-! ### What is passed on -/

def Line.passed : Line → Option Payload
  | .payload sent => some sent
  | _ => none

/-- The chunk has something for the client besides a usage. -/
def Chunk.carries (chunk : Chunk) : Bool := chunk.choices.any fun choice => choice.delta.getContentString ≠ "" ||
  choice.delta.getReasoningContent ≠ "" || !choice.delta.toolCalls.isEmpty || choice.finished.isSome

/-- Every payload is passed on once and in order, but for a last one that carries nothing. -/
def PassedOn (payloads : List Payload) (lines : List Line) : Prop := ∃ withheld,
  payloads = lines.filterMap Line.passed ++ withheld ∧
    ∀ payload ∈ withheld, withheld = [payload] ∧ ∃ chunk, payload.chunk = some chunk ∧ Chunk.carries chunk = false

variable (setting : Setting)

def Setting.plain : Setting := { setting with forceFormat := false, thinkingToContent := false }

theorem passed_sendStreamData (thinking : ThinkingContentInfo) (payload : Payload) :
    (sendStreamData setting.plain thinking payload).1.filterMap Line.passed = [payload].filter Payload.full := by
  unfold sendStreamData
  split
  next empty => simp [Payload.full, empty]
  next full => simp [Setting.plain, Line.passed, Payload.full, full]

theorem passed_run {payloads : List Payload} (full : ∀ payload ∈ payloads, payload.full = true) (scan : Scan) :
    let scanned := run (dataHandler setting.plain) scan payloads
    scanned.1.filterMap Line.passed ++ [scanned.2.lastStreamData].filter Payload.full =
        [scan.lastStreamData].filter Payload.full ++ payloads ∧
      scanned.2.lastStreamData = payloads.getLastD scan.lastStreamData := by
  induction payloads generalizing scan with
  | nil => exact ⟨(append_nil _).symm, rfl⟩
  | cons payload rest tail =>
    have here := full payload mem_cons_self
    have last : (dataHandler setting.plain scan payload).2.lastStreamData = payload := by
      rw [dataHandler, if_neg (by simpa [Payload.full] using here)]
    have sent : (dataHandler setting.plain scan payload).1 = (sendStreamData setting.plain scan.thinking scan.lastStreamData).1 := by
      unfold dataHandler
      split <;> rfl
    obtain ⟨later, ends⟩ := tail (fun other mem => full other (mem_cons_of_mem _ mem))
      (dataHandler setting.plain scan payload).2
    dsimp only [run] at later ends ⊢
    rw [last] at later ends
    refine ⟨?_, ends.trans getLastD_cons.symm⟩
    rw [filterMap_append, append_assoc, later, sent, passed_sendStreamData, filter_cons_of_pos here]
    rfl

theorem passed_finish (scanned : List Line × Scan) : (finish setting.plain scanned).filterMap Line.passed =
    scanned.1.filterMap Line.passed ++
      if shouldSendLastResp setting scanned.2.lastStreamData then [scanned.2.lastStreamData].filter Payload.full else [] := by
  have final : (handleFinalResponse setting.plain scanned.2).filterMap Line.passed = [] := by
    unfold handleFinalResponse
    dsimp only
    split <;> simp [Line.passed]
  have judged : shouldSendLastResp setting.plain scanned.2.lastStreamData = shouldSendLastResp setting scanned.2.lastStreamData := rfl
  rw [finish, filterMap_append, filterMap_append, final, append_nil, judged]
  split
  · rw [passed_sendStreamData]
  · rfl

theorem withheld_iff (last : Payload) : shouldSendLastResp setting last = false ↔ ∃ chunk, last.chunk = some chunk ∧
    last.reported ≠ none ∧ setting.shouldIncludeUsage = false ∧ chunk.hasContent = false ∧ chunk.hasThinkingContent = false := by
  unfold shouldSendLastResp
  cases last.chunk with
  | none => simp
  | some chunk =>
    dsimp only
    split
    next judged => simp [judged]
    next sent => simpa [← and_assoc] using fun reported included => absurd ⟨reported, included⟩ sent

/-- The stream is passed on whole, unless a last chunk with a usage and no text has tool calls or a finish reason. -/
theorem stream_passed_on_iff (setting : Setting) (payloads : List Payload) :
    PassedOn (payloads.filter Payload.full) (oaiStreamHandler setting.plain payloads) ↔
      ∀ last ∈ (payloads.filter Payload.full).getLast?, ∀ chunk ∈ last.chunk, last.reported ≠ none →
        setting.shouldIncludeUsage = false → Chunk.carries chunk = true →
          chunk.hasContent = true ∨ chunk.hasThinkingContent = true := by
  have full : ∀ payload ∈ payloads.filter Payload.full, payload.full = true := fun _ mem => (mem_filter.mp mem).2
  obtain ⟨all, ends⟩ := passed_run setting full {}
  rw [oaiStreamHandler, PassedOn, passed_finish]
  generalize run (dataHandler setting.plain) {} (payloads.filter Payload.full) = scanned at all ends ⊢
  generalize payloads.filter Payload.full = items at all ends full ⊢
  rcases eq_nil_or_concat' items with rfl | ⟨init, payload, rfl⟩
  · have nothing : [scanned.2.lastStreamData].filter Payload.full = [] := by rw [ends]; rfl
    rw [nothing, append_nil] at all
    refine iff_of_true ⟨[], ?_, by simp⟩ (by simp)
    rw [all, nothing, ite_self]
    rfl
  have last : [payload].filter Payload.full = [payload] := by simp [full payload (by simp)]
  rw [getLastD_concat] at ends
  rw [ends, last] at all ⊢
  rw [append_cancel_right all]
  cases sends : shouldSendLastResp setting payload with
  | true =>
    refine iff_of_true ⟨[], by simp, by simp⟩ fun last ends chunk is reported unasked _ => ?_
    rw [getLast?_concat] at ends
    cases ends
    by_contra silent
    rw [not_or, Bool.not_eq_true, Bool.not_eq_true] at silent
    rw [(withheld_iff setting payload).mpr ⟨chunk, is, reported, unasked, silent⟩] at sends
    cases sends
  | false =>
    obtain ⟨chunk, is, reported, unasked, noText, noThought⟩ := (withheld_iff setting payload).mp sends
    simp [is, reported, unasked, noText, noThought]

def finishPayload : Payload := ⟨"stop", some { choices := [{ finishReason := some "stop" }], usage := some someUsage }⟩

/-- A finish reason that comes with the usage does not reach the client. -/
theorem finish_reason_withheld :
    let lines := oaiStreamHandler { estimateUsage := fun _ => someUsage } [⟨"text", none⟩, finishPayload]
    lines.filterMap Line.passed = [⟨"text", none⟩] ∧ ¬PassedOn [⟨"text", none⟩, finishPayload] lines := by
  have passed : (oaiStreamHandler { estimateUsage := fun _ => someUsage } [⟨"text", none⟩, finishPayload]).filterMap Line.passed =
      [⟨"text", none⟩] := by decide +kernel
  refine ⟨passed, fun ⟨withheld, parts, silent⟩ => ?_⟩
  rw [passed, singleton_append, cons.injEq] at parts
  obtain ⟨_, chunk, is, none⟩ := silent finishPayload (parts.2 ▸ mem_singleton_self _)
  cases is
  cases none

/-! ### What is counted -/

/-- The modes that `processTokens` tells apart. The mode that the distributor leaves in the context for other paths is neither
of the first two. -/
inductive RelayMode
  | chatCompletions
  | completions
  | other
deriving DecidableEq

def path2RelayMode (path : String) : RelayMode :=
  if Text.hasPrefix path "/v1/chat/completions" || Text.hasPrefix path "/pg/chat/completions" then .chatCompletions
  else if Text.hasPrefix path "/v1/completions" then .completions
  else .other

def Choice.text (choice : Choice) : String := choice.delta.getContentString ++ choice.delta.getReasoningContent ++
  String.join (choice.delta.toolCalls.map fun tool => tool.name ++ tool.arguments)

/-- The text so far, and the largest number of tool calls of a choice. -/
abbrev Built := String × Nat

def processStreamResponse (built : Built) (chunk : Chunk) : Built := chunk.choices.foldl
  (fun built choice => (built.1 ++ Choice.text choice, max built.2 choice.delta.toolCalls.length)) built

def processEach (built : Built) : List Payload → Built
  | [] => built
  | item :: rest => match item.chunk with
    | none => built
    | some chunk => processEach (processStreamResponse built chunk) rest

section Counted

variable (array : List Payload → Option (List Chunk)) (completion : Payload → Option (List String))

/-- `array` decodes the items at once, joined to one text. -/
def processChatCompletions (items : List Payload) : Built :=
  match array items with
  | some chunks => chunks.foldl processStreamResponse ("", 0)
  | none => processEach ("", 0) items

/-- `completion` decodes an item of the Completions API to the texts of its choices. An item that it cannot decode is left
out. -/
def processCompletions (items : List Payload) : Built :=
  (items.filterMap completion).foldl (foldl fun built text => (built.1 ++ text, built.2)) ("", 0)

def processTokens (items : List Payload) : RelayMode → Built
  | .chatCompletions => processChatCompletions array items
  | .completions => processCompletions completion items
  | .other => ("", 0)

def Chunk.text (chunk : Chunk) : String := String.join (chunk.choices.map Choice.text)

def text (items : List Payload) : String := String.join ((items.filterMap Payload.chunk).map Chunk.text)

/-- The text of all items that can be decoded. -/
def delivered (items : List Payload) (mode : RelayMode) : String :=
  if mode = .completions then String.join ((items.filterMap completion).map String.join) else text items

theorem foldl_text {α : Type} {step : Built → α → Built} {said : α → String}
    (each : ∀ built item, (step built item).1 = built.1 ++ said item) (built : Built) (items : List α) :
    (items.foldl step built).1 = built.1 ++ String.join (items.map said) := by
  induction items generalizing built with
  | nil => simp
  | cons item rest tail => simp [tail, each, String.append_assoc]

theorem processStreamResponse_text (built : Built) (chunk : Chunk) :
    (processStreamResponse built chunk).1 = built.1 ++ Chunk.text chunk := foldl_text (fun _ _ => rfl) built chunk.choices

theorem processEach_text (built : Built) (items : List Payload) :
    (processEach built items).1 = built.1 ++ text (items.takeWhile fun item => item.chunk.isSome) := by
  induction items generalizing built with
  | nil => simp [processEach, text]
  | cons item rest tail =>
    unfold processEach
    cases is : item.chunk with
    | none => simp [is, text]
    | some chunk => simp [is, tail, text, processStreamResponse_text, String.append_assoc]

/-- If the items decode together, what they decode to are their chunks. -/
def ItemByItem (items : List Payload) : Prop := ∀ chunks, array items = some chunks → items.map Payload.chunk = chunks.map some

variable {array} in
theorem processChatCompletions_text {items : List Payload} (itemwise : ItemByItem array items) :
    (processChatCompletions array items).1 = text (items.takeWhile fun item => item.chunk.isSome) := by
  unfold processChatCompletions
  split
  next chunks decoded =>
    have same := itemwise chunks decoded
    have all : ∀ item ∈ items, item.chunk.isSome = true := by
      intro item mem
      obtain ⟨chunk, _, is⟩ := mem_map.mp (same ▸ mem_map_of_mem mem)
      rw [← is]
      rfl
    have whole : items.filterMap Payload.chunk = chunks := by
      have ids := congrArg (filterMap id) same
      simpa [filterMap_map] using ids
    rw [foldl_text processStreamResponse_text, takeWhile_eq_self_iff.mpr all, text, whole]
    exact String.empty_append
  · simp [processEach_text]

theorem processCompletions_text (items : List Payload) :
    (processCompletions completion items).1 = String.join ((items.filterMap completion).map String.join) := by
  have each : ∀ (built : Built) texts, (foldl (fun built text => (built.1 ++ text, built.2)) built texts).1 =
      built.1 ++ String.join (texts.map id) := foldl_text fun _ _ => rfl
  simp only [map_id] at each
  exact (foldl_text each _ _).trans String.empty_append

theorem scanned_items (scan : Scan) (payloads : List Payload) :
    (run (dataHandler setting) scan payloads).2.streamItems = scan.streamItems ++ payloads.filter Payload.full := by
  induction payloads generalizing scan with
  | nil => simp [run]
  | cons payload rest tail =>
    rw [run, tail]
    unfold dataHandler
    split
    next empty => simp [Payload.full, empty]
    next full => simp [Payload.full, full]

/-- All that was delivered is counted, unless chunks with text follow an item that is no chunk, or the path is neither that of
chats nor that of completions. -/
theorem counted_text_iff (array : List Payload → Option (List Chunk)) (completion : Payload → Option (List String))
    (setting : Setting) (path : String) (payloads : List Payload) (itemwise : ItemByItem array (payloads.filter Payload.full)) :
    (processTokens array completion (run (dataHandler setting) {} payloads).2.streamItems (path2RelayMode path)).1 =
        delivered completion (payloads.filter Payload.full) (path2RelayMode path) ↔
      (path2RelayMode path = .chatCompletions →
        text ((payloads.filter Payload.full).dropWhile fun item => item.chunk.isSome) = "") ∧
      (path2RelayMode path = .other → text (payloads.filter Payload.full) = "") := by
  rw [scanned_items]
  generalize payloads.filter Payload.full = items at itemwise ⊢
  unfold delivered
  cases path2RelayMode path with
  | chatCompletions =>
    have parts : text items = text (items.takeWhile fun item => item.chunk.isSome) ++
        text (items.dropWhile fun item => item.chunk.isSome) := by
      nth_rewrite 1 [← takeWhile_append_dropWhile (p := fun item : Payload => item.chunk.isSome) (l := items)]
      simp only [text, filterMap_append, map_append, String.join_append]
    simp only [processTokens, nil_append, processChatCompletions_text itemwise, reduceCtorEq, if_false, parts, forall_const,
      false_implies, and_true]
    refine ⟨fun same => ?_, fun none => by rw [none, String.append_empty]⟩
    exact ((String.append_right_inj _).mp (String.append_empty.trans same)).symm
  | completions => simp [processTokens, processCompletions_text]
  | other => simp [processTokens]

end Counted

def textPayload (content : String) : Payload := ⟨content, some (textChunk content)⟩

def chunks (items : List Payload) : Option (List Chunk) := items.mapM Payload.chunk

def countedText (path : String) (payloads : List Payload) : String := (processTokens chunks (fun _ => none)
  (run (dataHandler { estimateUsage := fun _ => someUsage }) {} payloads).2.streamItems (path2RelayMode path)).1

theorem itemByItem_chunks (items : List Payload) : ItemByItem chunks items := by
  induction items with
  | nil =>
    rintro _ ⟨⟩
    rfl
  | cons item rest tail =>
    intro all decoded
    rw [chunks, mapM_cons] at decoded
    obtain ⟨first, is, decoded⟩ := Option.bind_eq_some_iff.mp decoded
    obtain ⟨later, are, ⟨⟩⟩ := Option.bind_eq_some_iff.mp decoded
    rw [map_cons, map_cons, is, tail later are]

theorem counted_text_one_chat : countedText "/v1/chat/completions" [textPayload "hello"] =
    delivered (fun _ => none) [textPayload "hello"] .chatCompletions :=
  (counted_text_iff chunks (fun _ => none) { estimateUsage := fun _ => someUsage } "/v1/chat/completions"
    [textPayload "hello"] (itemByItem_chunks _)).mpr (by decide +kernel)

/-- Nothing is counted for a Claude client, nor for a chat what comes after a line that is no chunk. -/
theorem delivered_text_not_counted :
    (countedText "/v1/messages" [textPayload "hello"] = "" ∧ delivered (fun _ => none) [textPayload "hello"] .other = "hello") ∧
    countedText "/v1/chat/completions" [textPayload "hello", ⟨"x", none⟩, textPayload "world"] = "hello" ∧
    delivered (fun _ => none) [textPayload "hello", ⟨"x", none⟩, textPayload "world"] .chatCompletions = "helloworld" := by
  decide +kernel

end OpenAIClient

end Tokengine.Stream
