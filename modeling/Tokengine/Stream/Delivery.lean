import Tokengine.Lib.Pieces
import Tokengine.Stream.WellFormed

/-! What a Claude client gets of the text, the reasoning and the arguments of tool calls that the chunks of a stream carry. -/

namespace Tokengine.Stream
open Transducer Pieces

/-! ### What is said and what is heard -/

def ClaudeEvent.observed (observe : Nat → BlockDelta → Option String) : ClaudeEvent → Option String
  | .contentBlockDelta idx delta => observe idx delta
  | .contentBlockStart _ _ | .contentBlockStop _ | .messageStart _ _ _ | .messageDelta _ _ | .messageStop => none

/-- What the deltas of some events bring, as far as `observe` looks at them. -/
def heard (observe : Nat → BlockDelta → Option String) (events : List ClaudeEvent) : String :=
  concat (events.filterMap (ClaudeEvent.observed observe))

def textDelta (_ : Nat) : BlockDelta → Option String
  | .text text => some text
  | .thinking _ | .inputJson _ => none

def thinkingDelta (_ : Nat) : BlockDelta → Option String
  | .thinking thinking => some thinking
  | .text _ | .inputJson _ => none

def jsonDelta (block idx : Nat) : BlockDelta → Option String
  | .inputJson partialJson => if idx = block then some partialJson else none
  | .text _ | .thinking _ => none

/-- The arguments of the tool call `offset`; `i` is the position of the first fragment in the chunk. -/
def argumentsFrom (offset : Nat) : Nat → List ToolCallResponse → String
  | _, [] => ""
  | i, toolCall :: rest => (if toolCall.offset i = offset then toolCall.arguments else "") ++ argumentsFrom offset (i + 1) rest

def Chunk.delta (chunk : Chunk) : Delta := (chunk.choices.head?.map Choice.delta).getD {}

/-! ### The calls of the converter -/

structure Call where
  chunk : Chunk
  before : Info

def Call.sent (call : Call) : List ClaudeEvent × Info := streamResponseOpenAI2Claude call.chunk call.before

/-- The calls of `OaiStreamHandler`: the chunks are counted, but for the last one, for which a usage is known. -/
def callsOf (usage : Relay.Usage) : Info → List Chunk → List Call
  | _, [] => []
  | info, [last] => [⟨last, info.known usage⟩]
  | info, chunk :: next :: rest => ⟨chunk, info.counted chunk⟩ :: callsOf usage (handleStreamFormat info chunk).2 (next :: rest)

def handlerCalls (upstream : Upstream) (info : Info) (chunks : List Chunk) : List Call :=
  let scanned := (run (dataHandler upstream) { info := info } chunks).2
  match scanned.lastStreamData with
  | none => []
  | some last => callsOf (finalUsage upstream scanned last) info chunks

theorem callsOf_concat (usage : Relay.Usage) (info : Info) (scanned : List Chunk) (last : Chunk) :
    (callsOf usage info (scanned ++ [last])).flatMap (fun call => call.sent.1) =
        (run handleStreamFormat info scanned).1 ++ (handleFinalResponse last usage (run handleStreamFormat info scanned).2).1 ∧
      (callsOf usage info (scanned ++ [last])).map Call.chunk = scanned ++ [last] := by
  induction scanned generalizing info with
  | nil =>
    refine ⟨?_, rfl⟩
    show (streamResponseOpenAI2Claude last (info.known usage)).1 ++ [] = _
    rw [List.append_nil]
    rfl
  | cons chunk rest tail =>
    obtain ⟨events, chunks⟩ := tail (handleStreamFormat info chunk).2
    have split : callsOf usage info (chunk :: (rest ++ [last])) =
        ⟨chunk, info.counted chunk⟩ :: callsOf usage (handleStreamFormat info chunk).2 (rest ++ [last]) := by
      cases rest <;> rfl
    rw [List.cons_append, split, List.flatMap_cons, List.map_cons, events, chunks, run, List.append_assoc]
    exact ⟨rfl, rfl⟩

theorem handlerCalls_events (upstream : Upstream) (info : Info) (chunks : List Chunk) :
    (handlerCalls upstream info chunks).flatMap (fun call => call.sent.1) = (oaiStreamHandler upstream info chunks).1 ∧
      (handlerCalls upstream info chunks).map Call.chunk = chunks := by
  rcases List.eq_nil_or_concat chunks with rfl | ⟨scanned, last, rfl⟩
  · exact ⟨rfl, rfl⟩
  rw [List.concat_eq_append]
  have read := scanned_concat upstream info scanned last
  simp only [handlerCalls, oaiStreamHandler, read.1, read.2.1, read.2.2]
  exact callsOf_concat _ info scanned last

/-! ### What the events of a call bring -/

section Heard

variable (observe : Nat → BlockDelta → Option String)

theorem heard_append (first second : List ClaudeEvent) :
    heard observe (first ++ second) = heard observe first ++ heard observe second := by
  rw [heard, List.filterMap_append, concat_append]
  rfl

theorem heard_flatMap {α : Type} (sent : α → List ClaudeEvent) (calls : List α) :
    heard observe (calls.flatMap sent) = concat (calls.map fun call => heard observe (sent call)) := by
  induction calls with
  | nil => rfl
  | cons call rest tail => rw [List.flatMap_cons, heard_append, tail, List.map_cons, concat]

theorem heard_delta (idx : Nat) (delta : BlockDelta) :
    heard observe [.contentBlockDelta idx delta] = (observe idx delta).getD "" := by
  simp only [heard, List.filterMap_cons, ClaudeEvent.observed]
  cases observe idx delta with
  | none => rfl
  | some said => exact String.append_empty

theorem heard_start (idx : Nat) (block : ContentBlock) (events : List ClaudeEvent) :
    heard observe (.contentBlockStart idx block :: events) = heard observe events := rfl

theorem heard_messageStart (id model : String) (inputTokens : Int) (events : List ClaudeEvent) :
    heard observe (.messageStart id model inputTokens :: events) = heard observe events := rfl

theorem heard_stopOpenBlocks (info : Info) : heard observe (stopOpenBlocks info) = "" := by
  unfold stopOpenBlocks
  split
  · rfl
  · rfl
  · rfl
  induction List.range (info.toolCallMaxIndexOffset + 1) with
  | nil => rfl
  | cons offset rest tail => exact tail

theorem heard_stopOthers (type : LastMessageType) (info : Info) : heard observe (stopOthers type info) = "" := by
  unfold stopOthers
  split
  · rfl
  · exact heard_stopOpenBlocks observe info

theorem heard_closing (info : Info) (reason : String) (usage : Option Relay.Usage) :
    heard observe (stopOpenBlocks info ++ summary reason usage ++ [.messageStop]) = "" := by
  have told : heard observe (summary reason usage) = "" := by cases usage <;> rfl
  rw [heard_append, heard_append, heard_stopOpenBlocks, told]
  rfl

theorem heard_closed (events : List ClaudeEvent) (info : Info) (reason : String) (usage : Option Relay.Usage) :
    heard observe (events ++ (stopOpenBlocks info ++ summary reason usage ++ [.messageStop])) = heard observe events := by
  rw [heard_append, heard_closing, String.append_empty]

/-- What a piece brings, if it is written to the block `idx`. -/
def Piece.heardAt (idx : Nat) (piece : Piece) : String := (observe idx piece.delta).getD ""

theorem heard_laterPiece (piece : Piece) (info : Info) :
    heard observe (laterPiece piece info).1 = piece.heardAt observe (laterPiece piece info).2.index := by
  unfold laterPiece
  split
  · exact heard_delta observe info.index piece.delta
  rw [heard_append, heard_stopOpenBlocks, heard_start, heard_delta, String.empty_append]
  rfl

theorem heard_firstPiece (piece : Piece) (info : Info) :
    heard observe (firstPiece piece info).1 = piece.heardAt observe (firstPiece piece info).2.index := by
  simp only [firstPiece, heard_append, heard_stopOthers, heard_start, heard_delta, String.empty_append]
  rfl

end Heard

theorem jsonDelta_mute (block idx : Nat) : (jsonDelta block idx (.inputJson "")).getD "" = "" := by
  show (if idx = block then some "" else none).getD "" = ""
  split <;> rfl

variable (observe : Nat → BlockDelta → Option String) (call : Call)

theorem heard_toolCallEvents (mute : ∀ idx, (observe idx (.inputJson "")).getD "" = "") (idx : Nat)
    (toolCall : ToolCallResponse) :
    heard observe (toolCallEvents idx toolCall) = (observe idx (.inputJson toolCall.arguments)).getD "" := by
  have start : heard observe (if toolCall.name ≠ "" then [.contentBlockStart idx (.toolUse toolCall.id toolCall.name)]
      else []) = "" := by
    split <;> rfl
  rw [toolCallEvents, heard_append, start, String.empty_append]
  split
  · exact heard_delta observe idx _
  next silent =>
    rw [not_not.mp silent, mute]
    rfl

theorem heard_toolLoop_json (base offset i maxOffset : Nat) (toolCalls : List ToolCallResponse) :
    heard (jsonDelta (base + offset)) (toolLoop base i maxOffset toolCalls).1 = argumentsFrom offset i toolCalls := by
  induction toolCalls generalizing i maxOffset with
  | nil => rfl
  | cons toolCall rest tail =>
    show heard _ (toolCallEvents _ toolCall ++ (toolLoop base (i + 1) _ rest).1) = _
    rw [heard_append, tail, argumentsFrom, heard_toolCallEvents _ (jsonDelta_mute _), jsonDelta]
    simp only [Nat.add_left_cancel_iff]
    split <;> rfl

theorem heard_toolLoop_other (deaf : ∀ idx partialJson, observe idx (.inputJson partialJson) = none)
    (base i maxOffset : Nat) (toolCalls : List ToolCallResponse) :
    heard observe (toolLoop base i maxOffset toolCalls).1 = "" := by
  induction toolCalls generalizing i maxOffset with
  | nil => rfl
  | cons toolCall rest tail =>
    show heard _ (toolCallEvents _ toolCall ++ (toolLoop base (i + 1) _ rest).1) = _
    rw [heard_append, tail, String.append_empty, heard_toolCallEvents _ (by simp [deaf]), deaf]
    rfl

/-! ### What a call brings -/

@[ext] structure Brought where
  text : String
  thinking : String
  /-- For every tool call. -/
  json : Nat → String

def bring (sent : List ClaudeEvent × Info) : Brought :=
  { text := heard textDelta sent.1
    thinking := heard thinkingDelta sent.1
    json := fun offset => heard (jsonDelta (sent.2.toolCallBaseIndex + offset)) sent.1 }

def nothing : Brought := ⟨"", "", fun _ => ""⟩

def Delta.full (delta : Delta) : Brought :=
  ⟨delta.getContentString, delta.getReasoningContent, fun offset => argumentsFrom offset 0 delta.toolCalls⟩

def Delta.said (delta : Delta) : Brought :=
  { nothing with
    text := if delta.getReasoningContent = "" then delta.getContentString else ""
    thinking := delta.getReasoningContent }

def Delta.passFirst (delta : Delta) : Brought :=
  { delta.said with json := fun offset => if offset = 0 then (delta.toolCalls.head?.map (·.arguments)).getD "" else "" }

def Delta.passLater (delta : Delta) : Brought :=
  if delta.toolCalls = [] then delta.said else { nothing with json := delta.full.json }

def Call.passes (call : Call) : Brought :=
  match call.chunk.choices with
  | [] => nothing
  | choice :: _ =>
    if call.before.done then nothing
    else if call.before.sendResponseCount = 1 then choice.delta.passFirst
    else if choice.finished ≠ none ∧ call.chunk.usage = none then nothing
    else choice.delta.passLater

structure SaidBy (delta : Delta) (events : List ClaudeEvent) : Prop where
  text : heard textDelta events = delta.said.text
  thinking : heard thinkingDelta events = delta.said.thinking
  json : ∀ block, heard (jsonDelta block) events = ""

theorem saidBy_of_piece {delta : Delta} {events : List ClaudeEvent} (idx : Nat)
    (brought : ∀ observe, heard observe events = (delta.piece.map (Piece.heardAt observe idx)).getD "") :
    SaidBy delta events := by
  have pieces : (delta.piece.map (Piece.heardAt textDelta idx)).getD "" = delta.said.text ∧
      (delta.piece.map (Piece.heardAt thinkingDelta idx)).getD "" = delta.said.thinking ∧
      ∀ block, (delta.piece.map (Piece.heardAt (jsonDelta block) idx)).getD "" = "" := by
    unfold Delta.piece Delta.said
    by_cases silent : delta.getReasoningContent = ""
    · rw [if_neg (not_not.mpr silent), if_pos silent, silent]
      by_cases mute : delta.getContentString = ""
      · rw [if_neg (not_not.mpr mute), mute]
        exact ⟨rfl, rfl, fun _ => rfl⟩
      · rw [if_pos mute]
        exact ⟨rfl, rfl, fun _ => rfl⟩
    · rw [if_pos silent, if_neg silent]
      exact ⟨rfl, rfl, fun _ => rfl⟩
  exact ⟨(brought _).trans pieces.1, (brought _).trans pieces.2.1, fun block => (brought _).trans (pieces.2.2 block)⟩

theorem firstContent_saidBy (delta : Delta) (info : Info) : SaidBy delta (firstContent delta info).1 := by
  apply saidBy_of_piece (firstContent delta info).2.index
  intro observe
  unfold firstContent
  cases delta.piece with
  | none => rfl
  | some piece => exact heard_firstPiece observe piece info

theorem laterContent_saidBy {delta : Delta} (plain : delta.toolCalls = []) (info : Info) :
    SaidBy delta (laterContent delta info).1 := by
  apply saidBy_of_piece (laterContent delta info).2.index
  intro observe
  rw [laterContent, if_neg (not_not.mpr plain)]
  cases delta.piece with
  | none => rfl
  | some piece => exact heard_laterPiece observe piece info

variable (delta : Delta) (info : Info) {others : List Choice}

theorem bring_laterContent : bring (laterContent delta info) = delta.passLater := by
  unfold Delta.passLater
  split
  next plain =>
    have said := laterContent_saidBy plain info
    simp only [bring, said.text, said.thinking, said.json]
    rfl
  next tools =>
  rw [laterContent, if_pos tools, bring, laterTools]
  simp only [heard_append, heard_stopOthers, String.empty_append, heard_toolLoop_json]
  rw [heard_toolLoop_other textDelta (fun _ _ => rfl), heard_toolLoop_other thinkingDelta (fun _ _ => rfl)]
  rfl

theorem heard_firstToolCall (mute : (observe 0 (.inputJson "")).getD "" = "") : heard observe (firstToolCall delta info).1 =
      (observe 0 (.inputJson ((delta.toolCalls.head?.map (·.arguments)).getD ""))).getD "" := by
  unfold firstToolCall
  cases delta.toolCalls with
  | nil => exact mute.symm
  | cons toolCall rest =>
    show heard observe (if toolCall.arguments ≠ "" then _ else _) = (observe 0 (.inputJson toolCall.arguments)).getD ""
    split
    · exact heard_delta observe 0 _
    next silent =>
      rw [not_not.mp silent, mute]
      rfl

theorem advance_base (zero : info.toolCallBaseIndex = 0) : (advance info).toolCallBaseIndex = 0 := by
  unfold advance
  split
  · exact zero
  · rfl
  · exact zero
  · exact zero

theorem firstContent_base (zero : info.toolCallBaseIndex = 0) : (firstContent delta info).2.toolCallBaseIndex = 0 := by
  unfold firstContent firstPiece
  split
  · exact zero
  split
  · exact zero
  · exact advance_base info zero

theorem firstFinish_quiet (chunk : Chunk) (choice : Choice) (info : Info) :
    heard observe (firstFinish chunk choice info).1 = "" ∧
      (firstFinish chunk choice info).2.toolCallBaseIndex = info.toolCallBaseIndex := by
  unfold firstFinish
  split
  · exact ⟨rfl, rfl⟩
  · exact ⟨heard_closing observe info _ _, rfl⟩

theorem bring_firstChunk {chunk : Chunk} {choice : Choice} (chosen : chunk.choices = choice :: others)
    (info : Info) : bring (firstChunk chunk info) = choice.delta.passFirst := by
  have heardAll (observe : Nat → BlockDelta → Option String) : heard observe (firstChunk chunk info).1 =
      heard observe (firstToolCall choice.delta info).1 ++
        heard observe (firstContent choice.delta (firstToolCall choice.delta info).2).1 := by
    simp only [firstChunk, chosen, List.cons_append]
    rw [heard_messageStart, heard_append, heard_append, (firstFinish_quiet observe chunk choice _).1, String.append_empty]
  have said := firstContent_saidBy choice.delta (firstToolCall choice.delta info).2
  have json (offset : Nat) : heard (jsonDelta ((firstChunk chunk info).2.toolCallBaseIndex + offset)) (firstChunk chunk info).1 =
      choice.delta.passFirst.json offset := by
    rw [heardAll, said.json, String.append_empty, heard_firstToolCall _ _ _ (jsonDelta_mute _ 0)]
    show _ = if offset = 0 then _ else ""
    cases tools : choice.delta.toolCalls with
    | nil => exact (jsonDelta_mute _ 0).trans (ite_self "").symm
    | cons toolCall rest =>
      have base : (firstChunk chunk info).2.toolCallBaseIndex = 0 := by
        simp only [firstChunk, chosen, (firstFinish_quiet textDelta chunk choice _).2]
        apply firstContent_base
        rw [firstToolCall, tools]
      rw [base, Nat.zero_add, jsonDelta]
      by_cases head : offset = 0
      · rw [if_pos head.symm, if_pos head]
        rfl
      · rw [if_neg (Ne.symm head), if_neg head]
        rfl
  have text : heard textDelta (firstChunk chunk info).1 = choice.delta.passFirst.text := by
    rw [heardAll, said.text, heard_firstToolCall _ _ _ rfl]
    exact String.empty_append
  have thinking : heard thinkingDelta (firstChunk chunk info).1 = choice.delta.passFirst.thinking := by
    rw [heardAll, said.thinking, heard_firstToolCall _ _ _ rfl]
    exact String.empty_append
  rw [bring, text, thinking, funext json]

theorem bring_quiet {sent : List ClaudeEvent × Info} (quiet : ∀ observe, heard observe sent.1 = "") : bring sent = nothing := by
  simp only [bring, quiet]
  rfl

theorem heard_usageChunk (chunk : Chunk) (info : Info) : heard observe (usageChunk chunk info).1 = "" := by
  unfold usageChunk
  split
  · rfl
  rw [heard_append, heard_stopOpenBlocks]
  rfl

theorem bring_laterChunk {chunk : Chunk} {choice : Choice} (chosen : chunk.choices = choice :: others)
    (info : Info) : bring (laterChunk chunk info) =
      if choice.finished ≠ none ∧ chunk.usage = none then nothing else choice.delta.passLater := by
  simp only [laterChunk, chosen]
  cases finished : choice.finished with
  | none =>
    exact bring_laterContent choice.delta info
  | some reason =>
    by_cases early : chunk.usage = none
    · simp only [early, if_true]
      rfl
    · rw [if_neg (fun ended => early ended.2), ← bring_laterContent choice.delta { info with finishReason := reason }]
      simp only [early, if_false, bring, heard_closed]

theorem bring_sent : bring call.sent = call.passes := by
  obtain ⟨chunk, before⟩ := call
  simp only [Call.sent, Call.passes, streamResponseOpenAI2Claude]
  cases chosen : chunk.choices with
  | nil =>
    apply bring_quiet
    intro observe
    split
    · rfl
    split
    · simp only [firstChunk, chosen]; rfl
    · simp only [laterChunk, chosen, heard_usageChunk]
  | cons choice others =>
    show _ = if before.done = true then nothing else if before.sendResponseCount = 1 then _ else _
    by_cases done : before.done = true
    · rw [if_pos done, if_pos done]
      rfl
    rw [if_neg done, if_neg done]
    by_cases first : before.sendResponseCount = 1
    · rw [if_pos first, if_pos first, bring_firstChunk chosen]
    · rw [if_neg first, if_neg first, bring_laterChunk chosen]

/-! ### When nothing is lost -/

def Delta.Empty (delta : Delta) : Prop :=
  delta.getContentString = "" ∧ delta.getReasoningContent = "" ∧ ∀ toolCall ∈ delta.toolCalls, toolCall.arguments = ""

def FirstOnly : List ToolCallResponse → Prop
  | [] => True
  | toolCall :: rest => (toolCall.arguments = "" ∨ toolCall.offset 0 = 0) ∧ ∀ other ∈ rest, other.arguments = ""

/-- The converter has a place for all that is in the chunk: nothing comes after the end or with a finish reason that is
to be followed by a usage, and what is looked at instead of something else is alone. -/
def Call.Keeps (call : Call) : Prop :=
  match call.chunk.choices with
  | [] => True
  | choice :: _ =>
    let alone := choice.delta.getReasoningContent = "" ∨ choice.delta.getContentString = ""
    if call.before.done then choice.delta.Empty
    else if call.before.sendResponseCount = 1 then alone ∧ FirstOnly choice.delta.toolCalls
    else if choice.finished ≠ none ∧ call.chunk.usage = none then choice.delta.Empty
    else if choice.delta.toolCalls = [] then alone
    else choice.delta.getReasoningContent = "" ∧ choice.delta.getContentString = ""

theorem argumentsFrom_empty_iff (i : Nat) (toolCalls : List ToolCallResponse) :
    (∀ offset, argumentsFrom offset i toolCalls = "") ↔ ∀ toolCall ∈ toolCalls, toolCall.arguments = "" := by
  induction toolCalls generalizing i with
  | nil => exact ⟨nofun, fun _ _ => rfl⟩
  | cons toolCall rest tail =>
    simp only [argumentsFrom, String.append_eq_empty_iff, List.forall_mem_cons, ← tail (i + 1), forall_and]
    refine and_congr_left fun _ => ⟨fun all => ?_, fun mute offset => ?_⟩
    · have own := all (toolCall.offset i)
      rwa [if_pos rfl] at own
    · rw [mute, ite_self]

theorem full_eq_iff (passed : Brought) :
    passed = delta.full ↔ passed.text = delta.getContentString ∧ passed.thinking = delta.getReasoningContent ∧
      ∀ offset, passed.json offset = argumentsFrom offset 0 delta.toolCalls := by
  constructor
  · rintro rfl
    exact ⟨rfl, rfl, fun _ => rfl⟩
  · rintro ⟨text, thinking, json⟩
    exact Brought.ext text thinking (funext json)

theorem nothing_iff : nothing = delta.full ↔ delta.Empty := by
  rw [full_eq_iff, Delta.Empty, ← argumentsFrom_empty_iff 0]
  simp [nothing]

theorem said_text_iff :
    delta.said.text = delta.getContentString ↔ delta.getReasoningContent = "" ∨ delta.getContentString = "" := by
  show (if delta.getReasoningContent = "" then delta.getContentString else "") = _ ↔ _
  split
  next silent => exact ⟨fun _ => Or.inl silent, fun _ => rfl⟩
  next said => exact ⟨fun mute => Or.inr mute.symm, fun either => (either.resolve_left said).symm⟩

theorem firstOnly_iff (toolCalls : List ToolCallResponse) :
    (∀ offset, (if offset = 0 then (toolCalls.head?.map (·.arguments)).getD "" else "") = argumentsFrom offset 0 toolCalls) ↔
      FirstOnly toolCalls := by
  cases toolCalls with
  | nil => exact ⟨fun _ => trivial, fun _ offset => by split <;> rfl⟩
  | cons toolCall rest =>
    show (∀ offset, (if offset = 0 then toolCall.arguments else "") =
      (if toolCall.offset 0 = offset then toolCall.arguments else "") ++ argumentsFrom offset 1 rest) ↔ _ ∧ _
    rw [← argumentsFrom_empty_iff 1]
    constructor
    · intro all
      have head : toolCall.arguments = "" ∨ toolCall.offset 0 = 0 := by
        by_cases zero : toolCall.offset 0 = 0
        · exact Or.inr zero
        · have own := all (toolCall.offset 0)
          rw [if_neg zero, if_pos rfl, eq_comm, String.append_eq_empty_iff] at own
          exact Or.inl own.1
      have same (offset : Nat) : (if toolCall.offset 0 = offset then toolCall.arguments else "") =
          if offset = 0 then toolCall.arguments else "" := by
        rcases head with mute | zero
        · rw [mute, ite_self, ite_self]
        · rw [zero]
          simp only [eq_comm]
      refine ⟨head, fun offset => ?_⟩
      have here := all offset
      rw [same, eq_comm] at here
      exact String.append_eq_left_iff.mp here
    · rintro ⟨mute | zero, others⟩ offset
      · rw [mute, ite_self, ite_self, others]
        rfl
      · rw [zero, others, String.append_empty]
        simp only [eq_comm]

theorem passFirst_iff : delta.passFirst = delta.full ↔
    (delta.getReasoningContent = "" ∨ delta.getContentString = "") ∧ FirstOnly delta.toolCalls := by
  rw [full_eq_iff, ← firstOnly_iff, ← said_text_iff]
  exact and_congr_right fun _ => and_iff_right rfl

theorem passLater_iff : delta.passLater = delta.full ↔
    if delta.toolCalls = [] then delta.getReasoningContent = "" ∨ delta.getContentString = ""
    else delta.getReasoningContent = "" ∧ delta.getContentString = "" := by
  rw [full_eq_iff, Delta.passLater]
  split
  next plain =>
    rw [said_text_iff, plain]
    exact and_iff_left ⟨rfl, fun _ => rfl⟩
  · constructor
    · rintro ⟨text, thinking, _⟩
      exact ⟨thinking.symm, text.symm⟩
    · rintro ⟨thinking, text⟩
      exact ⟨text.symm, thinking.symm, fun _ => rfl⟩

theorem passes_full_iff : call.passes = call.chunk.delta.full ↔ call.Keeps := by
  obtain ⟨chunk, before⟩ := call
  simp only [Call.passes, Call.Keeps, Chunk.delta]
  cases chunk.choices with
  | nil => exact iff_true_intro rfl
  | cons choice others =>
    show (if before.done = true then nothing else if before.sendResponseCount = 1 then choice.delta.passFirst
      else if choice.finished ≠ none ∧ chunk.usage = none then nothing else choice.delta.passLater) = choice.delta.full ↔
        if before.done = true then _ else if before.sendResponseCount = 1 then _
        else if choice.finished ≠ none ∧ chunk.usage = none then _ else _
    split
    · exact nothing_iff choice.delta
    split
    · exact passFirst_iff choice.delta
    split
    · exact nothing_iff choice.delta
    · exact passLater_iff choice.delta

/-! ### Pieces arrive or get lost as a whole -/

theorem passes_cases (property : Brought → Prop) (lost : property nothing) (first : property call.chunk.delta.passFirst)
    (later : property call.chunk.delta.passLater) : property call.passes := by
  obtain ⟨chunk, before⟩ := call
  simp only [Call.passes]
  unfold Chunk.delta at first later
  cases chosen : chunk.choices with
  | nil => exact lost
  | cons choice others =>
    simp only [chosen] at first later
    show property (if before.done = true then nothing else if before.sendResponseCount = 1 then _ else _)
    split
    · exact lost
    split
    · exact first
    split
    · exact lost
    · exact later

theorem arrives_said : Arrives delta.said.text delta.getContentString := by
  show Arrives (if delta.getReasoningContent = "" then delta.getContentString else "") _
  split
  · exact arrives_self _
  · exact arrives_empty _

theorem arrives_text : Arrives call.passes.text call.chunk.delta.full.text := by
  apply passes_cases call (fun passed => Arrives passed.text call.chunk.delta.full.text)
  · exact arrives_empty _
  · exact arrives_said _
  unfold Delta.passLater
  split
  · exact arrives_said _
  · exact arrives_empty _

theorem arrives_thinking : Arrives call.passes.thinking call.chunk.delta.full.thinking := by
  apply passes_cases call (fun passed => Arrives passed.thinking call.chunk.delta.full.thinking)
  · exact arrives_empty _
  · exact arrives_self _
  unfold Delta.passLater
  split
  · exact arrives_self _
  · exact arrives_empty _

theorem arrives_passLater (offset : Nat) : Arrives (delta.passLater.json offset) (delta.full.json offset) := by
  unfold Delta.passLater
  split
  · exact arrives_empty _
  · exact arrives_self _

/-- The arguments of the tool call 0 may be mixed up with those of another one, which then misses them. -/
theorem arrives_json {offset : Nat} (other : offset ≠ 0) :
    Arrives (call.passes.json offset) (call.chunk.delta.full.json offset) := by
  apply passes_cases call (fun passed => Arrives (passed.json offset) (call.chunk.delta.full.json offset))
  · exact arrives_empty _
  · show Arrives (if offset = 0 then _ else "") _
    rw [if_neg other]
    exact arrives_empty _
  · exact arrives_passLater _ offset

theorem arrives_json_zero (others : ∀ offset, offset ≠ 0 → call.passes.json offset = call.chunk.delta.full.json offset) :
    Arrives (call.passes.json 0) (call.chunk.delta.full.json 0) := by
  revert others
  apply passes_cases call (fun passed => (∀ offset, offset ≠ 0 → passed.json offset = call.chunk.delta.full.json offset) →
    Arrives (passed.json 0) (call.chunk.delta.full.json 0))
  · exact fun _ => arrives_empty _
  · intro others
    simp only [Delta.full, Delta.passFirst] at others ⊢
    cases tools : call.chunk.delta.toolCalls with
    | nil => exact arrives_empty _
    | cons toolCall rest =>
      rw [tools] at others
      show Arrives toolCall.arguments ((if toolCall.offset 0 = 0 then toolCall.arguments else "") ++ _)
      split
      · exact arrives_prefix _ _
      next moved =>
      have own := others (toolCall.offset 0) moved
      rw [if_neg moved, argumentsFrom, if_pos rfl, eq_comm, String.append_eq_empty_iff] at own
      rw [own.1]
      exact arrives_empty _
  · exact fun _ => arrives_passLater _ 0

/-! ### Delivery -/

structure Delivered (upstream : Upstream) (info : Info) (chunks : List Chunk) : Prop where
  text : heard textDelta (oaiStreamHandler upstream info chunks).1 = concat (chunks.map (·.delta.getContentString))
  thinking : heard thinkingDelta (oaiStreamHandler upstream info chunks).1 = concat (chunks.map (·.delta.getReasoningContent))
  json : ∀ offset, concat ((handlerCalls upstream info chunks).map fun call => (bring call.sent).json offset) =
    concat (chunks.map fun chunk => argumentsFrom offset 0 chunk.delta.toolCalls)

theorem delivered_iff_calls (upstream : Upstream) (info : Info) (chunks : List Chunk) : Delivered upstream info chunks ↔
      concat ((handlerCalls upstream info chunks).map (·.passes.text)) =
          concat ((handlerCalls upstream info chunks).map (·.chunk.delta.full.text)) ∧
        concat ((handlerCalls upstream info chunks).map (·.passes.thinking)) =
          concat ((handlerCalls upstream info chunks).map (·.chunk.delta.full.thinking)) ∧
        ∀ offset, concat ((handlerCalls upstream info chunks).map (·.passes.json offset)) =
          concat ((handlerCalls upstream info chunks).map (·.chunk.delta.full.json offset)) := by
  obtain ⟨events, carried⟩ := handlerCalls_events upstream info chunks
  have full (part : Chunk → String) : concat ((handlerCalls upstream info chunks).map fun call => part call.chunk) =
      concat (chunks.map part) := by
    rw [← carried, List.map_map, carried]
    rfl
  have sent (observe : Nat → BlockDelta → Option String) : heard observe (oaiStreamHandler upstream info chunks).1 =
      concat ((handlerCalls upstream info chunks).map fun call => heard observe call.sent.1) := by
    rw [← events, heard_flatMap]
  have text : heard textDelta (oaiStreamHandler upstream info chunks).1 =
      concat ((handlerCalls upstream info chunks).map (·.passes.text)) := by
    simp only [sent, ← bring_sent]
    rfl
  have thinking : heard thinkingDelta (oaiStreamHandler upstream info chunks).1 =
      concat ((handlerCalls upstream info chunks).map (·.passes.thinking)) := by
    simp only [sent, ← bring_sent]
    rfl
  rw [← text, ← thinking]
  rw [full (·.delta.full.text), full (·.delta.full.thinking)]
  simp only [fun offset => full (·.delta.full.json offset), ← bring_sent]
  exact ⟨fun delivered => ⟨delivered.text, delivered.thinking, delivered.json⟩,
    fun ⟨text, thinking, json⟩ => ⟨text, thinking, json⟩⟩

/-- A Claude client gets all that the chunks of a stream carry if and only if the converter has, at every chunk, a place
for all that is in it. -/
theorem claude_stream_delivered_iff (upstream : Upstream) (info : Info) (chunks : List Chunk) :
    Delivered upstream info chunks ↔ ∀ call ∈ handlerCalls upstream info chunks, call.Keeps := by
  rw [delivered_iff_calls]
  simp only [← passes_full_iff]
  constructor
  · rintro ⟨text, thinking, json⟩ call mem
    have others (offset : Nat) (other : offset ≠ 0) := (concat_eq_iff fun call _ => arrives_json call other).mp (json offset)
    have zero := (concat_eq_iff fun call mem =>
      arrives_json_zero call fun offset other => others offset other call mem).mp (json 0)
    apply Brought.ext
    · exact (concat_eq_iff fun call _ => arrives_text call).mp text call mem
    · exact (concat_eq_iff fun call _ => arrives_thinking call).mp thinking call mem
    funext offset
    by_cases first : offset = 0
    · rw [first]
      exact zero call mem
    · exact others offset first call mem
  · intro all
    refine ⟨?_, ?_, fun offset => ?_⟩
    · exact congrArg concat (List.map_congr_left fun call mem => congrArg Brought.text (all call mem))
    · exact congrArg concat (List.map_congr_left fun call mem => congrArg Brought.thinking (all call mem))
    · exact congrArg concat (List.map_congr_left fun call mem =>
        congrArg (fun passed : Brought => passed.json offset) (all call mem))

def lastWordsChunk : Chunk where
  choices := [{ delta := { content := some "end" }, finishReason := some "stop" }]

def thoughtAndTextChunk : Chunk where
  choices := [{ delta := { content := some "text", reasoningContent := some "thought" } }]

def textAndToolChunk : Chunk where
  choices := [{ delta := { content := some "text", toolCalls := [⟨some 0, "a", "f", "1"⟩] } }]

def usageOnlyChunk : Chunk where
  choices := []
  usage := some someUsage

/-- Lost: text next to a finish reason, text next to reasoning, text next to a tool call, and the arguments of the second
tool call of the first chunk. -/
theorem output_lost : ¬Delivered plainUpstream {} [textChunk "x", lastWordsChunk, usageOnlyChunk] ∧
    ¬Delivered plainUpstream {} [textChunk "x", thoughtAndTextChunk, finishChunk] ∧
    ¬Delivered plainUpstream {} [textChunk "x", textAndToolChunk, finishChunk] ∧
    ¬Delivered plainUpstream {} [toolChunk [⟨some 0, "a", "f", "1"⟩, ⟨some 1, "b", "g", "2"⟩], finishChunk, usageOnlyChunk] := by
  refine ⟨fun all => ?_, fun all => ?_, fun all => ?_, fun all => ?_⟩
  · exact absurd all.text (by decide +kernel)
  · exact absurd all.text (by decide +kernel)
  · exact absurd all.text (by decide +kernel)
  · exact absurd (all.json 1) (by decide +kernel)

end Tokengine.Stream
