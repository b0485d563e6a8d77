import Tokengine.Stream.Calls

/-! The order of the events that a Claude client accepts, and when the converter keeps to it. -/

namespace Tokengine.Stream
open Runs Transducer List Option

/-! ### The client -/

inductive BlockType
  | toolUse
  | thinking
  | text
deriving DecidableEq

def ContentBlock.type : ContentBlock → BlockType
  | .toolUse _ _ => .toolUse
  | .thinking => .thinking
  | .text => .text

def BlockDelta.type : BlockDelta → BlockType
  | .inputJson _ => .toolUse
  | .thinking _ => .thinking
  | .text _ => .text

structure Client where
  started : Bool := false
  next : Nat := 0
  blocks : List (Nat × BlockType) := []
  stopped : Bool := false

def Client.live (client : Client) : Bool := client.started && !client.stopped

def Client.read (client : Client) : ClaudeEvent → Option Client
  | .messageStart _ _ _ => if client.started then none else some { client with started := true }
  | .contentBlockStart idx block =>
    if client.live = true ∧ idx = client.next then
      some { client with next := client.next + 1, blocks := client.blocks ++ [(idx, block.type)] }
    else none
  | .contentBlockDelta idx delta =>
    if client.live = true ∧ (idx, delta.type) ∈ client.blocks then some client else none
  | .contentBlockStop idx =>
    if client.live = true ∧ idx ∈ client.blocks.map Prod.fst then
      some { client with blocks := client.blocks.filter fun block => block.1 ≠ idx }
    else none
  | .messageDelta _ _ => if client.live = true ∧ client.blocks = [] then some client else none
  | .messageStop => if client.live = true ∧ client.blocks = [] then some { client with stopped := true } else none

def Accepted (events : List ClaudeEvent) : Prop := (exec Client.read {} events).isSome = true

instance (events : List ClaudeEvent) : Decidable (Accepted events) :=
  inferInstanceAs (Decidable (_ = true))

def Client.grow (client : Client) (type : BlockType) : Client :=
  { client with next := client.next + 1, blocks := client.blocks ++ [(client.next, type)] }

section Client

variable {client : Client}

section

variable (live : client.live = true) {delta : BlockDelta}
include live

theorem read_start (block : ContentBlock) :
    exec Client.read client [.contentBlockStart client.next block] = some (client.grow block.type) := by
  rw [exec, Client.read, if_pos ⟨live, rfl⟩]
  rfl

theorem read_delta {idx : Nat}
    (isOpen : (idx, delta.type) ∈ client.blocks) : exec Client.read client [.contentBlockDelta idx delta] = some client := by
  rw [exec, Client.read, if_pos ⟨live, isOpen⟩]
  rfl

theorem read_arguments {idx : Nat} (isOpen : (idx, .toolUse) ∈ client.blocks) (arguments : String) :
    exec Client.read client (if arguments ≠ "" then [.contentBlockDelta idx (.inputJson arguments)] else []) =
      some client := by
  split
  · exact read_delta live isOpen
  · rfl

theorem read_block {block : ContentBlock} (matching : delta.type = block.type) :
    exec Client.read client [.contentBlockStart client.next block, .contentBlockDelta client.next delta] =
      some (client.grow block.type) := by
  have isOpen : (client.next, delta.type) ∈ (client.grow block.type).blocks := by
    rw [matching]
    exact mem_append_right _ mem_cons_self
  calc exec Client.read client ([.contentBlockStart client.next block] ++ [.contentBlockDelta client.next delta])
      = exec Client.read (client.grow block.type) [.contentBlockDelta client.next delta] := by
        rw [exec_append, read_start live]
        rfl
    _ = some (client.grow block.type) := @read_delta (client.grow block.type) live _ _ isOpen

theorem read_stops (distinct : (client.blocks.map Prod.fst).Nodup) :
    exec Client.read client (client.blocks.map fun block => .contentBlockStop block.1) =
      some { client with blocks := [] } := by
  obtain ⟨started, next, blocks, stopped⟩ := client
  simp only at distinct ⊢
  induction blocks with
  | nil => rfl
  | cons block rest tail =>
    obtain ⟨fresh, distinct⟩ := nodup_cons.mp distinct
    have others : (block :: rest).filter (fun other => other.1 ≠ block.1) = rest := by
      rw [filter_cons_of_neg (by simp), filter_eq_self]
      intro other mem
      have differs : other.1 ≠ block.1 := fun same => fresh (same ▸ mem_map_of_mem mem)
      simpa using differs
    have stop : Client.read ⟨started, next, block :: rest, stopped⟩ (.contentBlockStop block.1) =
        some ⟨started, next, rest, stopped⟩ := by
      have known : block.1 ∈ (block :: rest).map Prod.fst := mem_map_of_mem mem_cons_self
      rw [Client.read, if_pos ⟨live, known⟩, others]
    rw [map_cons, exec, stop]
    exact tail live distinct

theorem read_end (none : client.blocks = []) (reason : String) (usage : Option Relay.Usage) :
    exec Client.read client (summary reason usage ++ [.messageStop]) = some { client with stopped := true } := by
  have stop : client.read .messageStop = some { client with stopped := true } := if_pos ⟨live, none⟩
  cases usage with
  | none => simp [summary, exec, stop]
  | some usage =>
    have delta : client.read (.messageDelta reason (buildClaudeUsageFromOpenAIUsage usage)) = some client :=
      if_pos ⟨live, none⟩
    simp [summary, exec, delta, stop]

end

end Client

/-! ### What the converter holds open -/

/-- The blocks of the first tool calls of a message, from the index `base` on. -/
def toolBlocks (base count : Nat) : List (Nat × BlockType) :=
  (List.range count).map fun offset => (base + offset, .toolUse)

theorem toolBlocks_succ (base count : Nat) :
    toolBlocks base (count + 1) = toolBlocks base count ++ [(base + count, .toolUse)] := by
  simp only [toolBlocks, range_succ, map_append, map_cons, map_nil]

variable {base count : Nat}

theorem mem_toolBlocks {offset : Nat} : (base + offset, BlockType.toolUse) ∈ toolBlocks base count ↔ offset < count := by
  simp only [toolBlocks, List.mem_map, mem_range, Prod.mk.injEq, and_true]
  constructor
  · rintro ⟨other, bound, same⟩
    omega
  · exact fun bound => ⟨offset, bound, rfl⟩

def Info.blocks (info : Info) : List (Nat × BlockType) :=
  match info.lastMessagesType with
  | .none => []
  | .text => [(info.index, .text)]
  | .thinking => [(info.index, .thinking)]
  | .tools => toolBlocks info.toolCallBaseIndex (info.toolCallMaxIndexOffset + 1)

def Info.next (info : Info) : Nat :=
  match info.lastMessagesType with
  | .none => info.index
  | .text | .thinking => info.index + 1
  | .tools => info.toolCallBaseIndex + info.toolCallMaxIndexOffset + 1

variable (info : Info)

theorem stopOpenBlocks_eq : stopOpenBlocks info = info.blocks.map fun block => .contentBlockStop block.1 := by
  unfold stopOpenBlocks Info.blocks
  cases info.lastMessagesType with
  | none | text | thinking => rfl
  | tools => simp only [toolBlocks, List.map_map]; rfl

theorem blocks_distinct : (info.blocks.map Prod.fst).Nodup := by
  unfold Info.blocks
  cases info.lastMessagesType with
  | none => exact nodup_nil
  | text | thinking => exact nodup_singleton _
  | tools =>
    simp only [toolBlocks, List.map_map]
    apply List.Nodup.map _ nodup_range
    intro first second same
    simpa using same

theorem advance_index : (advance info).index = info.next := by
  unfold advance Info.next
  cases info.lastMessagesType <;> rfl

theorem advance_type : (advance info).lastMessagesType = .none := by
  unfold advance
  cases type : info.lastMessagesType with
  | none => exact type
  | text | thinking | tools => rfl

structure Follows (info : Info) (client : Client) : Prop where
  started : client.started = true
  running : client.stopped = false
  blocks : client.blocks = info.blocks
  next : client.next = info.next

variable {info : Info} {client : Client}

theorem Follows.live (follows : Follows info client) : client.live = true := by
  simp [Client.live, follows.started, follows.running]

theorem Follows.of_blocks {other : Info} (follows : Follows info client)
    (blocks : other.blocks = info.blocks) (next : other.next = info.next) : Follows other client :=
  ⟨follows.started, follows.running, follows.blocks.trans blocks.symm, follows.next.trans next.symm⟩

section

variable (follows : Follows info client)
include follows

theorem read_stopOpenBlocks : exec Client.read client (stopOpenBlocks info) = some { client with blocks := [] } := by
  rw [stopOpenBlocks_eq, ← follows.blocks]
  apply read_stops follows.live
  rw [follows.blocks]
  exact blocks_distinct info

theorem Follows.advanced : Follows (advance info) { client with blocks := [] } where
  started := follows.started
  running := follows.running
  blocks := by simp only [Info.blocks, advance_type]
  next := by
    rw [Info.next, advance_type]
    exact follows.next.trans (advance_index info).symm

theorem read_close (reason : String) (usage : Option Relay.Usage) :
    exec Client.read client (stopOpenBlocks info ++ summary reason usage ++ [.messageStop]) =
      some { client with blocks := [], stopped := true } := by
  rw [append_assoc, exec_append, read_stopOpenBlocks follows]
  exact @read_end { client with blocks := [] } follows.live rfl reason usage

end

/-! ### Tool calls in order -/

def Info.openTools (info : Info) : Nat := if info.lastMessagesType = .tools then info.toolCallMaxIndexOffset + 1 else 0

/-- Fragments with a name open the tool calls `count`, `count + 1`, …; those without one continue a tool call that is open.
`i` is the position in the chunk. -/
def InOrder : Nat → Nat → List ToolCallResponse → Prop
  | _, _, [] => True
  | i, count, toolCall :: rest =>
    if toolCall.name ≠ "" then toolCall.offset i = count ∧ InOrder (i + 1) (count + 1) rest
    else toolCall.offset i < count ∧ InOrder (i + 1) count rest

instance decidableInOrder : (i count : Nat) → (toolCalls : List ToolCallResponse) → Decidable (InOrder i count toolCalls)
  | _, _, [] => isTrue trivial
  | i, count, toolCall :: rest =>
    haveI := decidableInOrder (i + 1) (count + 1) rest
    haveI := decidableInOrder (i + 1) count rest
    inferInstanceAs (Decidable (if toolCall.name ≠ "" then toolCall.offset i = count ∧ InOrder (i + 1) (count + 1) rest
      else toolCall.offset i < count ∧ InOrder (i + 1) count rest))

def openedBy (count : Nat) (toolCalls : List ToolCallResponse) : Nat :=
  count + toolCalls.countP fun toolCall => toolCall.name ≠ ""

theorem openedBy_cons (count : Nat) (toolCall : ToolCallResponse) (rest : List ToolCallResponse) :
    openedBy count (toolCall :: rest) = openedBy (if toolCall.name ≠ "" then count + 1 else count) rest := by
  unfold openedBy
  by_cases named : toolCall.name ≠ ""
  · rw [if_pos named, countP_cons_of_pos (by simpa using named)]
    omega
  · rw [if_neg named, countP_cons_of_neg (by simpa using named)]

variable {i : Nat} {toolCall : ToolCallResponse}

variable (live : client.live = true) (blocks : client.blocks = toolBlocks base count) (next : client.next = base + count)

include live blocks next in
theorem read_toolCall :
    (toolCall.name ≠ "" → toolCall.offset i = count →
      exec Client.read client (toolCallEvents (base + toolCall.offset i) toolCall) = some (client.grow .toolUse) ∧
        (client.grow .toolUse).blocks = toolBlocks base (count + 1) ∧ (client.grow .toolUse).next = base + (count + 1)) ∧
    (¬toolCall.name ≠ "" → toolCall.offset i < count →
      exec Client.read client (toolCallEvents (base + toolCall.offset i) toolCall) = some client) := by
  constructor
  · intro named same
    have isOpen : (client.next, .toolUse) ∈ (client.grow .toolUse).blocks := mem_append_right _ mem_cons_self
    refine ⟨?_, by rw [toolBlocks_succ, Client.grow, blocks, next], by simp only [Client.grow, next]; omega⟩
    rw [toolCallEvents, if_pos named, exec_append, same, ← next, read_start live, bind_some]
    exact @read_arguments (client.grow .toolUse) live _ isOpen _
  · intro unnamed continues
    have isOpen : (base + toolCall.offset i, .toolUse) ∈ client.blocks := by
      rw [blocks]
      exact mem_toolBlocks.mpr continues
    rw [toolCallEvents, if_neg unnamed, exec_append, exec, bind_some, read_arguments live isOpen]

def ToolCallResponse.Carries (toolCall : ToolCallResponse) : Prop := toolCall.name ≠ "" ∨ toolCall.arguments ≠ ""

/-- The client reads the events if and only if they fit, as far as they carry something. -/
structure Reads (client : Client) (events : List ClaudeEvent) (fits carry : Prop) (after : Client → Prop) : Prop where
  accepts : fits → ∃ next, exec Client.read client events = some next ∧ after next
  refuses : carry → ¬fits → exec Client.read client events = none

section

variable {first second events : List ClaudeEvent} {next : Client} {fits carry : Prop} {after after' : Client → Prop}

theorem reads_after (read : exec Client.read client first = some next) (reads : Reads next second fits carry after) :
    Reads client (first ++ second) fits carry after := by
  constructor <;> rw [exec_append, read]
  · exact reads.accepts
  · exact reads.refuses

theorem reads_none (unfit : ¬fits) (refused : carry → exec Client.read client first = none) :
    Reads client (first ++ second) fits carry after := by
  refine ⟨fun fit => absurd fit unfit, fun carries _ => ?_⟩
  rw [exec_append, refused carries]
  rfl

theorem reads_fit (read : exec Client.read client first = some next) (fit : fits) (ends : after next) :
    Reads client first fits carry after := ⟨fun _ => ⟨next, read, ends⟩, fun _ unfit => absurd fit unfit⟩

theorem Reads.andThen (reads : Reads client first fits carry after)
    (more : ∀ next, after next → ∃ last, exec Client.read next second = some last ∧ after' last) :
    Reads client (first ++ second) fits carry after' := by
  refine ⟨fun fit => ?_, fun carries unfit => ?_⟩
  · obtain ⟨next, read, holds⟩ := reads.accepts fit
    rw [exec_append, read]
    exact more next holds
  · rw [exec_append, reads.refuses carries unfit]
    rfl

theorem Reads.imp {fits' carry' : Prop}
    (reads : Reads client events fits carry after) (same : fits' ↔ fits) (carries : carry' → carry)
    (ends : fits → ∀ next, after next → after' next) : Reads client events fits' carry' after' := by
  refine ⟨fun fit => ?_, fun here unfit => reads.refuses (carries here) (mt same.mpr unfit)⟩
  obtain ⟨next, read, holds⟩ := reads.accepts (same.mp fit)
  exact ⟨next, read, ends (same.mp fit) next holds⟩

end

include live blocks next in
theorem reads_toolLoop {maxOffset : Nat} {toolCalls : List ToolCallResponse}
    (maxed : maxOffset = count - 1) : Reads client (toolLoop base i maxOffset toolCalls).1 (InOrder i count toolCalls)
      (∀ toolCall ∈ toolCalls, toolCall.Carries) fun after =>
        after = { client with
          next := base + openedBy count toolCalls
          blocks := toolBlocks base (openedBy count toolCalls) } ∧
        (toolLoop base i maxOffset toolCalls).2 = openedBy count toolCalls - 1 := by
  induction toolCalls generalizing i count maxOffset client with
  | nil =>
    obtain ⟨started, _, _, stopped⟩ := client
    cases blocks
    cases next
    exact reads_fit rfl trivial ⟨rfl, maxed⟩
  | cons toolCall rest tail =>
    have later : (∀ other ∈ toolCall :: rest, other.Carries) → ∀ other ∈ rest, other.Carries :=
      fun carry other mem => carry other (mem_cons_of_mem _ mem)
    obtain ⟨starts, goesOn⟩ := @read_toolCall base count client i toolCall live blocks next
    rw [openedBy_cons]
    simp only [toolLoop, InOrder]
    by_cases named : toolCall.name ≠ ""
    · simp only [if_pos named]
      by_cases same : toolCall.offset i = count
      · obtain ⟨read, grown, following⟩ := starts named same
        have largest : (if maxOffset < toolCall.offset i then toolCall.offset i else maxOffset) = count + 1 - 1 := by
          split <;> omega
        exact reads_after read ((tail (by exact live) grown following largest).imp (and_iff_right same) later fun _ _ ends => ends)
      · refine reads_none (fun both => same both.1) fun _ => ?_
        have refused : client.read (.contentBlockStart (base + toolCall.offset i) (.toolUse toolCall.id toolCall.name)) = none :=
          if_neg fun both => same (by have := both.2; omega)
        rw [toolCallEvents, if_pos named, exec_append, exec, refused]
        rfl
    · simp only [if_neg named]
      by_cases continues : toolCall.offset i < count
      · have largest : (if maxOffset < toolCall.offset i then toolCall.offset i else maxOffset) = count - 1 := by
          split <;> omega
        exact reads_after (goesOn named continues)
          ((tail live blocks next largest).imp (and_iff_right continues) later fun _ _ ends => ends)
      · refine reads_none (fun both => continues both.1) fun carry => ?_
        have argued : toolCall.arguments ≠ "" := (carry toolCall mem_cons_self).resolve_left named
        have refused : client.read (.contentBlockDelta (base + toolCall.offset i) (.inputJson toolCall.arguments)) = none := by
          apply if_neg
          rintro ⟨_, isOpen⟩
          rw [blocks] at isOpen
          exact continues (mem_toolBlocks.mp isOpen)
        rw [toolCallEvents, if_neg named, nil_append, if_pos argued, exec, refused]
        rfl

/-! ### One chunk -/

theorem Piece.delta_type (piece : Piece) : piece.delta.type = piece.block.type := by
  cases piece <;> rfl

section

variable (follows : Follows info client)
include follows

variable (piece : Piece)

theorem Follows.grown (none : info.lastMessagesType = .none) :
    Follows { info with lastMessagesType := piece.type } (client.grow piece.block.type) := by
  have idx : client.next = info.index := by
    rw [follows.next, Info.next, none]
  have empty : client.blocks = [] := by
    rw [follows.blocks, Info.blocks, none]
  cases piece with
  | thinking | text =>
    refine ⟨follows.started, follows.running, ?_, ?_⟩
    · simp [Client.grow, Info.blocks, Piece.type, Piece.block, ContentBlock.type, empty, idx]
    · simp only [Client.grow, Info.next, Piece.type, idx]

theorem read_newPiece : ∃ next, exec Client.read client (stopOpenBlocks info ++
        [.contentBlockStart (advance info).index piece.block, .contentBlockDelta (advance info).index piece.delta]) = some next ∧
      Follows { advance info with lastMessagesType := piece.type } next := by
  have advanced := follows.advanced
  have idx : (advance info).index = ({ client with blocks := [] } : Client).next :=
    (advance_index info).trans follows.next.symm
  refine ⟨_, ?_, advanced.grown piece (advance_type info)⟩
  rw [exec_append, read_stopOpenBlocks follows, bind_some, idx]
  exact read_block advanced.live piece.delta_type

theorem read_laterPiece :
    ∃ next, exec Client.read client (laterPiece piece info).1 = some next ∧ Follows (laterPiece piece info).2 next := by
  unfold laterPiece
  split
  next same =>
    refine ⟨client, read_delta follows.live ?_, follows⟩
    rw [follows.blocks, Info.blocks, same]
    cases piece <;> exact mem_singleton.mpr rfl
  · exact read_newPiece follows piece

theorem read_enterTools :
    ∃ next, exec Client.read client (stopOthers .tools info) = some next ∧ next.live = true ∧ next.started = true ∧
      next.stopped = false ∧ next.blocks = toolBlocks (enterTools info).toolCallBaseIndex info.openTools ∧
      next.next = (enterTools info).toolCallBaseIndex + info.openTools := by
  unfold stopOthers enterTools Info.openTools
  split
  next tools =>
    refine ⟨client, rfl, follows.live, follows.started, follows.running, ?_, ?_⟩
    · rw [follows.blocks, Info.blocks, tools]
    · rw [follows.next, Info.next, tools]
      rfl
  · have advanced := follows.advanced
    refine ⟨_, read_stopOpenBlocks follows, advanced.live, advanced.started, advanced.running, rfl, ?_⟩
    exact follows.next.trans (advance_index info).symm

end

theorem enterTools_maxOffset (info : Info) : (enterTools info).toolCallMaxIndexOffset = info.openTools - 1 := by
  unfold enterTools Info.openTools
  split <;> rfl

theorem enterTools_type (info : Info) : (enterTools info).lastMessagesType = .tools := by
  unfold enterTools
  split
  next tools => exact tools
  · rfl

theorem openedBy_pos {toolCalls : List ToolCallResponse} (some : toolCalls ≠ [])
    (inOrder : InOrder i count toolCalls) : 0 < openedBy count toolCalls := by
  cases toolCalls with
  | nil => exact absurd rfl some
  | cons toolCall rest =>
    rw [openedBy_cons]
    unfold InOrder at inOrder
    unfold openedBy
    split
    next named => omega
    next unnamed =>
      rw [if_neg unnamed] at inOrder
      have := inOrder.1
      omega

variable {delta : Delta}

section

variable (follows : Follows info client)
include follows

theorem reads_laterTools {toolCalls : List ToolCallResponse} (some : toolCalls ≠ []) :
    Reads client (laterTools toolCalls info).1 (InOrder 0 info.openTools toolCalls)
      (∀ toolCall ∈ toolCalls, toolCall.Carries) (Follows (laterTools toolCalls info).2) := by
  obtain ⟨entered, enters, live, started, running, blocks, idx⟩ := read_enterTools follows
  refine reads_after enters ((reads_toolLoop live blocks idx (enterTools_maxOffset info)).imp Iff.rfl id ?_)
  rintro inOrder _ ⟨rfl, largest⟩
  have pos := openedBy_pos some inOrder
  refine ⟨started, running, ?_, ?_⟩
  · simp only [laterTools, Info.blocks, enterTools_type, largest]
    rw [Nat.sub_add_cancel pos]
  · simp only [laterTools, Info.next, enterTools_type, largest]
    omega

theorem reads_laterContent (delta : Delta) :
    Reads client (laterContent delta info).1 (InOrder 0 info.openTools delta.toolCalls)
      (∀ toolCall ∈ delta.toolCalls, toolCall.Carries) (Follows (laterContent delta info).2) := by
  unfold laterContent
  split
  next some => exact reads_laterTools follows some
  next none =>
  rw [not_not.mp none]
  split
  · exact reads_fit rfl trivial follows
  next piece _ =>
    obtain ⟨next, read, ends⟩ := read_laterPiece follows piece
    exact reads_fit read trivial ends

end

/-- The client is where the converter believes it to be, or the message has ended for both. -/
structure Tracks (info : Info) (client : Client) : Prop where
  started : client.started = true
  stopped : client.stopped = info.done
  follows : info.done = false → Follows info client

theorem Follows.tracks (follows : Follows info client) (running : info.done = false) : Tracks info client :=
  ⟨follows.started, follows.running.trans running.symm, fun _ => follows⟩

theorem tracks_ended (started : client.started = true) (stopped : client.stopped = true)
    (done : info.done = true) : Tracks info client := by
  refine ⟨started, stopped.trans done.symm, fun running => ?_⟩
  rw [done] at running
  cases running

/-- The tool calls of a chunk number on from the tool blocks that are open. Those of a chunk that comes with a finish
reason and without a usage are not looked at. -/
def Chunk.Continues (chunk : Chunk) (info : Info) : Prop :=
  match chunk.choices with
  | [] => True
  | choice :: _ => choice.finished ≠ none ∧ chunk.usage = none ∨ InOrder 0 info.openTools choice.delta.toolCalls

instance : (chunk : Chunk) → (info : Info) → Decidable (chunk.Continues info)
  | ⟨_, _, [], _⟩, _ => isTrue trivial
  | ⟨_, _, choice :: _, usage⟩, info => inferInstanceAs (Decidable
      (choice.finished ≠ none ∧ usage = none ∨ InOrder 0 info.openTools choice.delta.toolCalls))

def Chunk.Carries (chunk : Chunk) : Prop :=
  ∀ choice ∈ chunk.choices, ∀ toolCall ∈ choice.delta.toolCalls, toolCall.Carries

theorem reads_laterChunk (follows : Follows info client) (running : info.done = false) (chunk : Chunk) :
    Reads client (laterChunk chunk info).1 (chunk.Continues info) chunk.Carries (Tracks (laterChunk chunk info).2) := by
  unfold laterChunk
  split
  next none =>
    rw [Chunk.Continues, none]
    unfold usageChunk
    split
    · exact reads_fit rfl trivial (follows.tracks running)
    next usage _ =>
    have close := read_close follows (if stopReasonOpenAI2Claude info.finishReason = "" then "end_turn"
      else stopReasonOpenAI2Claude info.finishReason) (some usage)
    rw [append_assoc] at close
    exact reads_fit close trivial (tracks_ended follows.started rfl rfl)
  next choice _ chosen =>
  have carries : chunk.Carries → ∀ toolCall ∈ choice.delta.toolCalls, toolCall.Carries :=
    fun carry => carry choice (chosen ▸ mem_cons_self)
  rw [Chunk.Continues, chosen]
  split
  next unfinished =>
    refine (reads_laterContent follows choice.delta).imp (or_iff_right fun early => early.1 unfinished) carries ?_
    exact fun _ next ends => ends.tracks ((laterContent_same choice.delta info).done.trans running)
  next reason finished =>
  have same : Follows { info with finishReason := reason } client := follows.of_blocks rfl rfl
  have stated : choice.finished ≠ none := by simp [finished]
  split
  next unknown => exact reads_fit rfl (.inl ⟨stated, unknown⟩) (same.tracks running)
  next known =>
    refine ((reads_laterContent same choice.delta).andThen fun next ends => ?_).imp (or_iff_right (mt And.right known))
      carries fun _ _ ends => ends
    exact ⟨_, read_close ends _ _, tracks_ended ends.started rfl rfl⟩

/-! ### The first chunk -/

structure Info.Fresh (info : Info) : Prop where
  type : info.lastMessagesType = .none
  index : info.index = 0
  running : info.done = false

theorem read_firstToolCall (fresh : info.Fresh) (follows : Follows info client) (delta : Delta) :
    ∃ next, exec Client.read client (firstToolCall delta info).1 = some next ∧ Follows (firstToolCall delta info).2 next ∧
      ∀ piece : Piece, (firstToolCall delta info).2.lastMessagesType ≠ piece.type := by
  have idx : client.next = 0 := by
    rw [follows.next, Info.next, fresh.type, ← fresh.index]
  have none : client.blocks = [] := by
    rw [follows.blocks, Info.blocks, fresh.type]
  unfold firstToolCall
  split
  · refine ⟨client, rfl, follows, fun piece same => ?_⟩
    rw [fresh.type] at same
    cases piece <;> cases same
  next toolCall _ _ =>
  refine ⟨client.grow .toolUse, ?_, ⟨follows.started, follows.running, ?_, ?_⟩, fun piece same => ?_⟩
  · have isOpen : (0, .toolUse) ∈ (client.grow .toolUse).blocks := by
      rw [← idx]
      exact mem_append_right _ mem_cons_self
    have start := read_start follows.live (.toolUse toolCall.id toolCall.name)
    rw [idx] at start
    rw [← singleton_append, exec_append, start]
    exact @read_arguments (client.grow .toolUse) follows.live 0 isOpen toolCall.arguments
  · simp only [Client.grow, none, idx, Info.blocks, toolBlocks]
    rfl
  · simp only [Client.grow, idx, Info.next]
  · cases piece <;> cases same

theorem read_firstContent (follows : Follows info client)
    (other : ∀ piece : Piece, info.lastMessagesType ≠ piece.type) (delta : Delta) :
    ∃ next, exec Client.read client (firstContent delta info).1 = some next ∧ Follows (firstContent delta info).2 next := by
  unfold firstContent
  split
  · exact ⟨client, rfl, follows⟩
  next piece _ =>
  obtain ⟨next, reads, tracks⟩ := read_newPiece follows piece
  refine ⟨next, ?_, ?_⟩
  · simp only [firstPiece, stopOthers, if_neg (other piece)]
    exact reads
  · simp only [firstPiece, if_neg (other piece)]
    exact tracks

theorem read_firstFinish (follows : Follows info client) (running : info.done = false) (chunk : Chunk) (choice : Choice) :
    ∃ next, exec Client.read client (firstFinish chunk choice info).1 = some next ∧
      Tracks (firstFinish chunk choice info).2 next := by
  unfold firstFinish
  split
  · exact ⟨client, rfl, follows.tracks running⟩
  · exact ⟨_, read_close follows _ _, tracks_ended follows.started rfl rfl⟩

theorem read_firstChunk (fresh : info.Fresh) (chunk : Chunk) :
    ∃ next, exec Client.read {} (firstChunk chunk info).1 = some next ∧ Tracks (firstChunk chunk info).2 next := by
  have begun : Follows info { started := true } := by
    refine ⟨rfl, rfl, ?_, ?_⟩
    · rw [Info.blocks, fresh.type]
    · rw [Info.next, fresh.type, fresh.index]
  unfold firstChunk
  split
  · exact ⟨{ started := true }, rfl, begun.tracks fresh.running⟩
  next choice _ _ =>
  have running := (firstToolCall_same choice.delta info).done.trans fresh.running
  obtain ⟨one, readsTool, follows, other⟩ := read_firstToolCall fresh begun choice.delta
  obtain ⟨two, readsContent, follows⟩ := read_firstContent follows other choice.delta
  obtain ⟨three, readsFinish, tracks⟩ := read_firstFinish follows ((firstContent_same choice.delta _).done.trans running) chunk choice
  refine ⟨three, ?_, tracks⟩
  simp only [cons_append, append_assoc]
  rw [exec, show Client.read {} (.messageStart chunk.id chunk.model info.estimatePromptTokens) =
    some { started := true } from rfl]
  simp [exec_append, readsTool, readsContent, readsFinish]

theorem reject_firstChunk (started : client.started = true) (chunk : Chunk) (info : Info) :
    exec Client.read client (firstChunk chunk info).1 = none := by
  have refused : client.read (.messageStart chunk.id chunk.model info.estimatePromptTokens) = none := if_pos started
  unfold firstChunk
  split <;> simp [exec, refused]

/-! ### The stream -/

def Between (info : Info) (client : Client) : Prop :=
  info.sendResponseCount = 0 ∧ info.Fresh ∧ client = {} ∨ 0 < info.sendResponseCount ∧ Tracks info client

def Fits (info : Info) (chunk : Chunk) : Prop :=
  info.done = true ∨ info.sendResponseCount = 0 ∨ chunk.Continues info

instance (info : Info) (chunk : Chunk) : Decidable (Fits info chunk) :=
  inferInstanceAs (Decidable (info.done = true ∨ info.sendResponseCount = 0 ∨ chunk.Continues info))

def Chunk.Silent (chunk : Chunk) : Prop :=
  match chunk.choices with
  | [] => False
  | choice :: _ => choice.finished ≠ none ∧ chunk.usage = none ∨
      choice.finished = none ∧ choice.delta.toolCalls = [] ∧ choice.delta.piece = none

def FitsLast (info : Info) (last : Chunk) : Prop :=
  info.done = true ∨ 2 ≤ info.sendResponseCount ∧ last.Continues info ∨ info.sendResponseCount = 0 ∧ last.Silent

def FitStream (info : Info) (chunks : List Chunk) : Prop :=
  ∀ last, chunks.getLast? = some last →
    Allowed handleStreamFormat Fits info chunks.dropLast ∧ FitsLast (run handleStreamFormat info chunks.dropLast).2 last

theorem reads_handleStreamFormat (chunk : Chunk) (between : Between info client) :
    Reads client (handleStreamFormat info chunk).1 (Fits info chunk) chunk.Carries (Between (handleStreamFormat info chunk).2) := by
  have count := handleStreamFormat_count info chunk
  rcases between with ⟨zero, fresh, rfl⟩ | ⟨pos, tracks⟩
  · have unsent : (info.counted chunk).Fresh := ⟨fresh.type, fresh.index, fresh.running⟩
    rw [handleStreamFormat_first fresh.running zero] at count ⊢
    obtain ⟨next, read, tracks⟩ := read_firstChunk unsent chunk
    exact reads_fit read (.inr (.inl zero)) (.inr ⟨by omega, tracks⟩)
  · cases running : info.done with
    | true =>
      rw [handleStreamFormat_done running]
      refine reads_fit rfl (.inl running) (.inr ⟨Nat.succ_pos _, tracks.started, tracks.stopped, fun live => ?_⟩)
      cases running.symm.trans live
    | false =>
      have follows : Follows (info.counted chunk) client := (tracks.follows running).of_blocks rfl rfl
      have fits : Fits info chunk ↔ chunk.Continues info := by simp [Fits, running, Nat.ne_of_gt pos]
      rw [handleStreamFormat_later running pos] at count ⊢
      exact (@reads_laterChunk (info.counted chunk) client follows running chunk).imp fits id
        fun _ next tracks => .inr ⟨by omega, tracks⟩

abbrev Unopened (events : List ClaudeEvent) : Prop := ∀ event ∈ events, ∀ id model tokens, event ≠ .messageStart id model tokens

theorem reject_unstarted (some : events ≠ []) (other : Unopened events) : exec Client.read {} events = none := by
  obtain ⟨event, rest, rfl⟩ := exists_cons_of_ne_nil some
  have refused : Client.read {} event = none := by
    cases event with
    | messageStart id model tokens => exact absurd rfl (other _ mem_cons_self id model tokens)
    | contentBlockStart | contentBlockDelta | contentBlockStop | messageDelta | messageStop => simp [Client.read, Client.live]
  rw [exec, refused]
  rfl

theorem unopened_of_blocks (ofBlock : OfBlocks events) : Unopened events := by
  rintro event sent id model tokens rfl
  cases ofBlock _ sent

theorem unopened_close (info : Info) (reason : String) (usage : Option Relay.Usage) :
    Unopened (stopOpenBlocks info ++ (summary reason usage ++ [.messageStop])) := by
  refine forall_mem_append.mpr ⟨unopened_of_blocks (stopOpenBlocks_ofBlock info), ?_⟩
  rintro event sent id model tokens rfl
  cases usage <;> simp [summary] at sent

theorem unopened_laterChunk (chunk : Chunk) (info : Info) : Unopened (laterChunk chunk info).1 := by
  unfold laterChunk
  split
  · unfold usageChunk
    split
    · exact forall_mem_nil _
    next usage _ => exact unopened_close info _ (some usage)
  next choice _ _ =>
  split
  · exact unopened_of_blocks (laterContent_ofBlock choice.delta info)
  split
  · exact forall_mem_nil _
  · refine forall_mem_append.mpr ⟨unopened_of_blocks (laterContent_ofBlock choice.delta _), ?_⟩
    rw [append_assoc]
    exact unopened_close _ _ _

theorem toolCallEvents_ne_nil (carries : toolCall.Carries) (blockIndex : Nat) :
    toolCallEvents blockIndex toolCall ≠ [] := by
  unfold toolCallEvents
  rcases carries with named | argued
  · rw [if_pos named]
    exact cons_ne_nil _ _
  · rw [if_pos argued]
    exact append_ne_nil_of_right_ne_nil _ (cons_ne_nil _ _)

theorem laterContent_ne_nil (carry : ∀ toolCall ∈ delta.toolCalls, toolCall.Carries)
    (spoken : ¬(delta.toolCalls = [] ∧ delta.piece = none)) (info : Info) : (laterContent delta info).1 ≠ [] := by
  unfold laterContent
  split
  next some =>
    obtain ⟨toolCall, rest, calls⟩ := exists_cons_of_ne_nil some
    apply append_ne_nil_of_right_ne_nil
    rw [calls]
    apply append_ne_nil_of_left_ne_nil
    exact toolCallEvents_ne_nil (carry toolCall (calls ▸ mem_cons_self)) _
  next none =>
  have none : delta.toolCalls = [] := not_not.mp none
  split
  next silent => exact absurd ⟨none, silent⟩ spoken
  · unfold laterPiece
    split
    · exact cons_ne_nil _ _
    · exact append_ne_nil_of_right_ne_nil _ (cons_ne_nil _ _)

theorem laterChunk_ne_nil {chunk : Chunk} (carry : chunk.Carries) (heard : ¬chunk.Silent) {usage : Relay.Usage}
    (known : info.usage = some usage) : (laterChunk chunk info).1 ≠ [] := by
  unfold Chunk.Silent at heard
  unfold laterChunk
  split
  · unfold usageChunk
    split
    next unknown =>
      rw [known] at unknown
      cases stated : chunk.usage <;> rw [stated] at unknown <;> cases unknown
    · exact append_ne_nil_of_right_ne_nil _ (cons_ne_nil _ _)
  next choice _ chosen =>
  rw [chosen] at heard
  obtain ⟨early, spoken⟩ := not_or.mp heard
  split
  next unfinished =>
    exact laterContent_ne_nil (carry choice (chosen ▸ mem_cons_self)) (fun silent => spoken ⟨unfinished, silent⟩) info
  next finished =>
    rw [if_neg fun unknown => early ⟨by rw [finished]; exact some_ne_none _, unknown⟩]
    apply append_ne_nil_of_right_ne_nil
    exact append_ne_nil_of_right_ne_nil _ (cons_ne_nil _ _)

theorem laterChunk_silent {chunk : Chunk} (silent : chunk.Silent) (info : Info) : (laterChunk chunk info).1 = [] := by
  unfold Chunk.Silent at silent
  unfold laterChunk
  split
  next none =>
    rw [none] at silent
    cases silent
  next chosen =>
  rw [chosen] at silent
  rcases silent with ⟨finished, unknown⟩ | ⟨unfinished, none, nothing⟩
  · split
    next unfinished => exact absurd unfinished finished
    · rw [if_pos unknown]
  · rw [unfinished]
    simp [laterContent, none, nothing]

section Final

variable {last : Chunk} {usage : Relay.Usage}

theorem reads_handleFinalResponse (between : Between info client) :
    Reads client (handleFinalResponse last usage info).1 (FitsLast info last) last.Carries fun _ => True := by
  cases running : info.done with
  | true =>
    rw [handleFinalResponse_done running]
    exact reads_fit rfl (.inl running) trivial
  | false =>
    rcases between with ⟨zero, fresh, rfl⟩ | ⟨pos, tracks⟩
    · have fits : FitsLast info last ↔ last.Silent := by simp [FitsLast, running, zero]
      rw [handleFinalResponse_later running (by omega)]
      by_cases silent : last.Silent
      · rw [laterChunk_silent silent]
        exact reads_fit rfl (fits.mpr silent) trivial
      · have known : (info.known usage).usage = some usage := rfl
        refine ⟨fun fit => absurd (fits.mp fit) silent, fun carry _ => ?_⟩
        exact reject_unstarted (laterChunk_ne_nil carry silent known) (unopened_laterChunk last _)
    · by_cases one : info.sendResponseCount = 1
      · have unfit : ¬FitsLast info last := by simp [FitsLast, running, one]
        rw [handleFinalResponse_first running one]
        exact ⟨fun fit => absurd fit unfit, fun _ _ => reject_firstChunk tracks.started last _⟩
      · have follows : Follows (info.known usage) client := (tracks.follows running).of_blocks rfl rfl
        have fits : FitsLast info last ↔ last.Continues info := by
          simp [FitsLast, running, Nat.ne_of_gt pos, show 2 ≤ info.sendResponseCount by omega]
        rw [handleFinalResponse_later running one]
        exact (@reads_laterChunk (info.known usage) client follows running last).imp fits id fun _ _ _ => trivial

end Final

theorem between_start (tokens : Int) : Between { estimatePromptTokens := tokens } {} :=
  .inl ⟨rfl, ⟨rfl, rfl, rfl⟩, rfl⟩

/-- The client accepts every stream whose chunks fit, and no other stream of fragments that carry something. -/
theorem claude_stream_well_formed (upstream : Upstream) (tokens : Int) (chunks : List Chunk) :
    (FitStream { estimatePromptTokens := tokens } chunks →
      Accepted (oaiStreamHandler upstream { estimatePromptTokens := tokens } chunks).1) ∧
    ((∀ chunk ∈ chunks, chunk.Carries) → Accepted (oaiStreamHandler upstream { estimatePromptTokens := tokens } chunks).1 →
        FitStream { estimatePromptTokens := tokens } chunks) := by
  rcases eq_nil_or_concat chunks with rfl | ⟨scanned, last, rfl⟩
  · exact ⟨fun _ => rfl, fun _ _ last found => absurd found (by simp)⟩
  obtain ⟨usage, handled⟩ := oaiStreamHandler_eq upstream { estimatePromptTokens := tokens } scanned last
  have accepts (info : Info) (client : Client) (chunk : Chunk) (between : Between info client) :=
    (reads_handleStreamFormat chunk between).accepts
  rw [concat_eq_append, handled]
  constructor
  · intro fit
    obtain ⟨allowed, ends⟩ := fit last getLast?_concat
    rw [dropLast_concat] at allowed ends
    obtain ⟨client, reads, between⟩ := run_accepted accepts (between_start tokens) allowed
    obtain ⟨final, finishes, _⟩ := (@reads_handleFinalResponse _ _ _ usage between).accepts ends
    rw [Accepted, exec_append, reads, bind_some, finishes]
    rfl
  · intro carry accepted
    obtain ⟨final, accepted⟩ := isSome_iff_exists.mp accepted
    rw [exec_append] at accepted
    obtain ⟨client, reads, finishes⟩ := bind_eq_some_iff.mp accepted
    have allowed := allowed_of_accepted accepts (fun _ _ chunk between => (reads_handleStreamFormat chunk between).refuses)
      (between_start tokens) (fun chunk mem => carry chunk (mem_append_left _ mem)) reads
    obtain ⟨other, same, between⟩ := run_accepted accepts (between_start tokens) allowed
    cases reads.symm.trans same
    intro found isLast
    rw [getLast?_concat] at isLast
    cases isLast
    rw [dropLast_concat]
    refine ⟨allowed, ?_⟩
    by_contra stray
    have carries : last.Carries := carry last (mem_append_right _ mem_cons_self)
    rw [(reads_handleFinalResponse between).refuses carries stray] at finishes
    cases finishes

/-! ### Streams -/

def Chunk.toolCalls (chunk : Chunk) : List ToolCallResponse := (chunk.choices.head?.map fun choice => choice.delta.toolCalls).getD []

/-- Over the whole stream, a tool call is named in its first fragment, and tool calls are opened in the order of their indices. -/
def OpensInOrder : Nat → List Chunk → Prop
  | _, [] => True
  | count, chunk :: rest => InOrder 0 count chunk.toolCalls ∧ OpensInOrder (openedBy count chunk.toolCalls) rest

instance decidableOpensInOrder : (count : Nat) → (chunks : List Chunk) → Decidable (OpensInOrder count chunks)
  | _, [] => isTrue trivial
  | _, _ :: rest => @instDecidableAnd _ _ (decidableInOrder _ _ _) (decidableOpensInOrder _ rest)

def textChunk (content : String) : Chunk where
  choices := [{ delta := { content := some content } }]

def toolChunk (toolCalls : List ToolCallResponse) : Chunk where
  choices := [{ delta := { toolCalls := toolCalls } }]

def someUsage : Relay.Usage := ⟨5, 7, 0, 0, 0, 0, 0, 0, "", "", .absent⟩

def finishChunk : Chunk where
  choices := [{ finishReason := some "stop" }]
  usage := some someUsage

def plainUpstream : Upstream := ⟨false, fun _ => someUsage, fun usage _ => usage⟩

def twoToolsThenArguments : List Chunk :=
  [toolChunk [⟨some 0, "a", "f", ""⟩, ⟨some 1, "b", "g", ""⟩], toolChunk [⟨some 1, "", "", "1"⟩], finishChunk]

def toolTextTool : List Chunk :=
  [textChunk "x", toolChunk [⟨some 0, "a", "f", ""⟩], textChunk "y", toolChunk [⟨some 1, "b", "g", ""⟩], finishChunk]

theorem text_then_tools_well_formed : Accepted (oaiStreamHandler plainUpstream {}
      [textChunk "x", textChunk "y", toolChunk [⟨some 0, "a", "f", "1"⟩, ⟨some 1, "b", "g", "2"⟩], finishChunk]).1 := by
  apply (claude_stream_well_formed plainUpstream 0 _).1
  intro last found
  cases found
  refine ⟨by decide +kernel, .inr (.inl ?_)⟩
  decide +kernel

/-- A stream of two chunks starts the message twice; the second tool call of the first chunk is never started; tool calls after
text are numbered on from the wrong block. -/
theorem ill_formed_streams :
    (OpensInOrder 0 [textChunk "x", finishChunk] ∧ ¬Accepted (oaiStreamHandler plainUpstream {} [textChunk "x", finishChunk]).1) ∧
    (OpensInOrder 0 twoToolsThenArguments ∧ ¬Accepted (oaiStreamHandler plainUpstream {} twoToolsThenArguments).1) ∧
    (OpensInOrder 0 toolTextTool ∧ ¬Accepted (oaiStreamHandler plainUpstream {} toolTextTool).1) := by
  decide +kernel

end Tokengine.Stream
