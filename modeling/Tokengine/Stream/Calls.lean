import Tokengine.Stream.Convert

/-! What the calls of the converter have in common: which events they send, what they leave alone, and in which order
`OaiStreamHandler` makes them. -/

namespace Tokengine.Stream
open Transducer List

/-! ### Events of blocks -/

def ClaudeEvent.ofBlock : ClaudeEvent → Bool
  | .contentBlockStart _ _ | .contentBlockDelta _ _ | .contentBlockStop _ => true
  | .messageStart _ _ _ | .messageDelta _ _ | .messageStop => false

abbrev OfBlocks (events : List ClaudeEvent) : Prop := ∀ event ∈ events, event.ofBlock = true

theorem ofBlock_if {condition : Prop} [Decidable condition] {event : ClaudeEvent} (block : event.ofBlock = true) :
    OfBlocks (if condition then [event] else []) := by
  split
  · exact forall_mem_singleton.mpr block
  · exact forall_mem_nil _

theorem stopOpenBlocks_ofBlock (info : Info) : OfBlocks (stopOpenBlocks info) := by
  unfold stopOpenBlocks
  split
  · exact forall_mem_nil _
  iterate 2 · exact forall_mem_singleton.mpr rfl
  exact forall_mem_map.mpr fun _ _ => rfl

theorem stopOthers_ofBlock (type : LastMessageType) (info : Info) : OfBlocks (stopOthers type info) := by
  unfold stopOthers
  split
  · exact forall_mem_nil _
  · exact stopOpenBlocks_ofBlock info

theorem toolLoop_ofBlock (base i maxOffset : Nat) (toolCalls : List ToolCallResponse) :
    OfBlocks (toolLoop base i maxOffset toolCalls).1 := by
  induction toolCalls generalizing i maxOffset with
  | nil => exact forall_mem_nil _
  | cons toolCall rest tail =>
    have now : OfBlocks (toolCallEvents (base + toolCall.offset i) toolCall) :=
      forall_mem_append.mpr ⟨ofBlock_if rfl, ofBlock_if rfl⟩
    exact forall_mem_append.mpr ⟨now, tail _ _⟩

theorem block_ofBlock (idx : Nat) (piece : Piece) :
    OfBlocks [.contentBlockStart idx piece.block, .contentBlockDelta idx piece.delta] :=
  forall_mem_cons.mpr ⟨rfl, forall_mem_singleton.mpr rfl⟩

variable (delta : Delta) (info : Info)

theorem laterContent_ofBlock : OfBlocks (laterContent delta info).1 := by
  unfold laterContent
  split
  · exact forall_mem_append.mpr ⟨stopOthers_ofBlock _ info, toolLoop_ofBlock _ _ _ _⟩
  split
  · exact forall_mem_nil _
  unfold laterPiece
  split
  · exact forall_mem_singleton.mpr rfl
  · exact forall_mem_append.mpr ⟨stopOpenBlocks_ofBlock info, block_ofBlock _ _⟩

theorem firstToolCall_ofBlock : OfBlocks (firstToolCall delta info).1 := by
  unfold firstToolCall
  split
  · exact forall_mem_nil _
  · exact forall_mem_cons.mpr ⟨rfl, ofBlock_if rfl⟩

theorem firstContent_ofBlock : OfBlocks (firstContent delta info).1 := by
  unfold firstContent
  split
  · exact forall_mem_nil _
  · exact forall_mem_append.mpr ⟨stopOthers_ofBlock _ info, block_ofBlock _ _⟩

/-! ### The state between calls -/

structure SameCall (before after : Info) : Prop where
  count : after.sendResponseCount = before.sendResponseCount
  done : after.done = before.done
  usage : after.usage = before.usage
  finishReason : after.finishReason = before.finishReason

theorem advance_same : SameCall info (advance info) := by
  unfold advance
  cases info.lastMessagesType <;> exact ⟨rfl, rfl, rfl, rfl⟩

theorem laterContent_same : SameCall info (laterContent delta info).2 := by
  have moved := advance_same info
  unfold laterContent
  split
  · unfold laterTools enterTools
    split
    · exact ⟨rfl, rfl, rfl, rfl⟩
    · exact ⟨moved.count, moved.done, moved.usage, moved.finishReason⟩
  · split
    · exact ⟨rfl, rfl, rfl, rfl⟩
    unfold laterPiece
    split
    · exact ⟨rfl, rfl, rfl, rfl⟩
    · exact ⟨moved.count, moved.done, moved.usage, moved.finishReason⟩

theorem firstToolCall_same : SameCall info (firstToolCall delta info).2 := by
  unfold firstToolCall
  split <;> exact ⟨rfl, rfl, rfl, rfl⟩

theorem firstContent_same : SameCall info (firstContent delta info).2 := by
  have moved := advance_same info
  unfold firstContent firstPiece
  split
  · exact ⟨rfl, rfl, rfl, rfl⟩
  split
  · exact ⟨rfl, rfl, rfl, rfl⟩
  · exact ⟨moved.count, moved.done, moved.usage, moved.finishReason⟩

variable (chunk : Chunk) (info : Info)

theorem firstChunk_count : (firstChunk chunk info).2.sendResponseCount = info.sendResponseCount := by
  have finish (choice : Choice) (info : Info) : (firstFinish chunk choice info).2.sendResponseCount = info.sendResponseCount := by
    unfold firstFinish
    split <;> rfl
  unfold firstChunk
  split
  · rfl
  · rw [finish, (firstContent_same _ _).count, (firstToolCall_same _ _).count]

theorem laterChunk_kept :
    (laterChunk chunk info).2.sendResponseCount = info.sendResponseCount ∧ (laterChunk chunk info).2.usage = info.usage := by
  unfold laterChunk
  split
  · unfold usageChunk
    split <;> exact ⟨rfl, rfl⟩
  next choice _ _ =>
  split
  · exact ⟨(laterContent_same choice.delta info).count, (laterContent_same choice.delta info).usage⟩
  next reason _ =>
  have same := laterContent_same choice.delta { info with finishReason := reason }
  split
  · exact ⟨rfl, rfl⟩
  · exact ⟨same.count, same.usage⟩

theorem streamResponse_count : (streamResponseOpenAI2Claude chunk info).2.sendResponseCount = info.sendResponseCount := by
  unfold streamResponseOpenAI2Claude
  split
  · rfl
  split
  · exact firstChunk_count chunk info
  · exact (laterChunk_kept chunk info).1

theorem handleStreamFormat_count (chunk : Chunk) :
    (handleStreamFormat info chunk).2.sendResponseCount = info.sendResponseCount + 1 :=
  streamResponse_count chunk _

def Info.counted (info : Info) (chunk : Chunk) : Info :=
  { info with sendResponseCount := info.sendResponseCount + 1, usage := chunk.usage.or info.usage }

variable {info : Info}

def Info.known (info : Info) (usage : Relay.Usage) : Info := { info with usage := some usage }

variable {last : Chunk} {usage : Relay.Usage}

section Running

variable (running : info.done = false)
include running

/-- After the first chunk, a running message is continued by the second part of the converter. -/
theorem streamResponse_later (count : info.sendResponseCount ≠ 1) (chunk : Chunk) :
    streamResponseOpenAI2Claude chunk info = laterChunk chunk info := by
  rw [streamResponseOpenAI2Claude, running, if_neg Bool.false_ne_true, if_neg count]

theorem streamResponse_first (count : info.sendResponseCount = 1) (chunk : Chunk) :
    streamResponseOpenAI2Claude chunk info = firstChunk chunk info := by
  rw [streamResponseOpenAI2Claude, running, if_neg Bool.false_ne_true, if_pos count]

theorem handleStreamFormat_first (zero : info.sendResponseCount = 0) (chunk : Chunk) :
    handleStreamFormat info chunk = firstChunk chunk (info.counted chunk) :=
  @streamResponse_first (info.counted chunk) running (congrArg (· + 1) zero) chunk

theorem handleStreamFormat_later (pos : 0 < info.sendResponseCount) (chunk : Chunk) :
    handleStreamFormat info chunk = laterChunk chunk (info.counted chunk) :=
  @streamResponse_later (info.counted chunk) running (fun one => by have := Nat.succ.inj one; omega) chunk

theorem handleFinalResponse_first (one : info.sendResponseCount = 1) :
    (handleFinalResponse last usage info).1 = (firstChunk last (info.known usage)).1 := by
  show (streamResponseOpenAI2Claude last (info.known usage)).1 = _
  rw [@streamResponse_first (info.known usage) running one]

theorem handleFinalResponse_later (other : info.sendResponseCount ≠ 1) :
    (handleFinalResponse last usage info).1 = (laterChunk last (info.known usage)).1 := by
  show (streamResponseOpenAI2Claude last (info.known usage)).1 = _
  rw [@streamResponse_later (info.known usage) running other]

end Running

theorem streamResponse_done (done : info.done = true) (chunk : Chunk) :
    streamResponseOpenAI2Claude chunk info = ([], info) := if_pos done

theorem handleStreamFormat_done (done : info.done = true) (chunk : Chunk) :
    handleStreamFormat info chunk = ([], info.counted chunk) := @streamResponse_done (info.counted chunk) done chunk

theorem handleFinalResponse_done (done : info.done = true) : (handleFinalResponse last usage info).1 = [] := by
  show (streamResponseOpenAI2Claude last (info.known usage)).1 = _
  rw [@streamResponse_done (info.known usage) done]

/-! ### The handler as a sequence of calls -/

variable (upstream : Upstream)

theorem scan_info (scan : Scan) (last : Chunk) (rest : List Chunk) (behind : scan.lastStreamData = some last) :
    (run (dataHandler upstream) scan rest).1 = (run handleStreamFormat scan.info (last :: rest).dropLast).1 ∧
      (run (dataHandler upstream) scan rest).2.info = (run handleStreamFormat scan.info (last :: rest).dropLast).2 ∧
      (run (dataHandler upstream) scan rest).2.lastStreamData = (last :: rest).getLast? := by
  induction rest generalizing scan last with
  | nil => exact ⟨rfl, rfl, behind⟩
  | cons data rest tail =>
    obtain ⟨events, info, newest⟩ := tail (dataHandler upstream scan data).2 data rfl
    have sent : (dataHandler upstream scan data).1 = (handleStreamFormat scan.info last).1 ∧
        (dataHandler upstream scan data).2.info = (handleStreamFormat scan.info last).2 := by
      simp [dataHandler, behind]
    rw [dropLast_cons_cons, run, run, events, info, newest, sent.1, sent.2]
    exact ⟨rfl, rfl, (getLast?_cons_cons).symm⟩

theorem scanned_concat (info : Info) (chunks : List Chunk) (last : Chunk) :
    (run (dataHandler upstream) { info := info } (chunks ++ [last])).1 = (run handleStreamFormat info chunks).1 ∧
      (run (dataHandler upstream) { info := info } (chunks ++ [last])).2.info = (run handleStreamFormat info chunks).2 ∧
      (run (dataHandler upstream) { info := info } (chunks ++ [last])).2.lastStreamData = some last := by
  cases chunks with
  | nil => exact ⟨rfl, rfl, rfl⟩
  | cons first rest =>
    obtain ⟨events, state, newest⟩ :=
      scan_info upstream (dataHandler upstream { info := info } first).2 first (rest ++ [last]) rfl
    rw [← cons_append, dropLast_concat] at events state
    rw [← cons_append, getLast?_concat] at newest
    exact ⟨events, state, newest⟩

/-- All chunks but the last one are sent while the stream is read; the last one is sent in the end, with a usage. -/
theorem oaiStreamHandler_eq (info : Info) (chunks : List Chunk) (last : Chunk) :
    ∃ usage, oaiStreamHandler upstream info (chunks ++ [last]) =
      ((run handleStreamFormat info chunks).1 ++ (handleFinalResponse last usage (run handleStreamFormat info chunks).2).1,
        (handleFinalResponse last usage (run handleStreamFormat info chunks).2).2) := by
  have scanned := scanned_concat upstream info chunks last
  refine ⟨finalUsage upstream (run (dataHandler upstream) { info := info } (chunks ++ [last])).2 last, ?_⟩
  simp only [oaiStreamHandler, scanned.2.2, scanned.1, scanned.2.1]

end Tokengine.Stream
