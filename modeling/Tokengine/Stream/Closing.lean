import Tokengine.Stream.Responses
import Tokengine.Stream.WellFormed

/-! The end of a stream for a Claude client: which streams are closed by the time the handler returns. -/

namespace Tokengine.Stream
open Transducer List Option

/-! ### Closed messages -/

def stillOpen (isOpen : List Nat) : ClaudeEvent → List Nat
  | .contentBlockStart idx _ => idx :: isOpen
  | .contentBlockStop idx => isOpen.filter (· ≠ idx)
  | .contentBlockDelta _ _ | .messageStart _ _ _ | .messageDelta _ _ | .messageStop => isOpen

def ClaudeEvent.ofEnd : ClaudeEvent → Bool
  | .messageDelta _ _ | .messageStop => true
  | .contentBlockStart _ _ | .contentBlockDelta _ _ | .contentBlockStop _ | .messageStart _ _ _ => false

/-- All blocks are stopped, then comes the only `message_delta`, with a stop reason, and the only `message_stop`. -/
def Closed (events : List ClaudeEvent) : Prop :=
  ∃ before reason usage, events = before ++ [.messageDelta reason usage, .messageStop] ∧ reason ≠ "" ∧
    (∀ event ∈ before, event.ofEnd = false) ∧ before.foldl stillOpen [] = []

/-- Events that come before the end of a message. -/
abbrev Clean (events : List ClaudeEvent) : Prop := ∀ event ∈ events, event.ofEnd = false

variable {events : List ClaudeEvent}

theorem clean_of_blocks (ofBlock : OfBlocks events) : Clean events := by
  intro event sent
  have block := ofBlock event sent
  cases event <;> first | rfl | cases block

theorem clean_append {before : List ClaudeEvent} (clean : Clean before) (more : Clean events) :
    Clean (before ++ events) := forall_mem_append.mpr ⟨clean, more⟩

/-- Nothing is closed without a `message_stop`. -/
theorem not_closed (running : Clean events) : ¬Closed events := by
  rintro ⟨before, reason, usage, rfl, _⟩
  have stop := running .messageStop (mem_append_right _ (mem_cons_of_mem _ mem_cons_self))
  cases stop

variable {before : List ClaudeEvent} {reason : String}

theorem closed_iff {usage : ClaudeUsage} (running : Clean before) (stated : reason ≠ "") :
    Closed (before ++ [.messageDelta reason usage, .messageStop]) ↔ before.foldl stillOpen [] = [] := by
  constructor
  · rintro ⟨other, _, _, same, _, _, none⟩
    have lengths := congrArg length same
    have equal := (append_inj same (by simpa using lengths)).1
    rw [equal]
    exact none
  · exact fun none => ⟨before, reason, usage, rfl, stated, running, none⟩

/-- A `message_stop` that no `message_delta` goes before closes nothing. -/
theorem not_closed_bare (running : Clean before) : ¬Closed (before ++ [.messageStop]) := by
  rintro ⟨other, reason, usage, same, _⟩
  have split : before = other ++ [.messageDelta reason usage] := by
    have initial := congrArg dropLast same
    rw [dropLast_concat, show other ++ [.messageDelta reason usage, .messageStop] =
      (other ++ [.messageDelta reason usage]) ++ [.messageStop] by simp, dropLast_concat] at initial
    exact initial
  have delta := running (.messageDelta reason usage) (split ▸ mem_append_right _ mem_cons_self)
  cases delta

theorem stopReason_stated (stated : reason ≠ "") : stopReasonOpenAI2Claude reason ≠ "" := by
  simp only [stopReasonOpenAI2Claude]
  iterate 5
    split
    · decide
  exact stated

/-! ### Open blocks -/

def Covers (info : Info) (isOpen : List Nat) : Prop := ∀ idx ∈ isOpen, idx ∈ info.blocks.map Prod.fst

theorem stillOpen_stops (isOpen indices : List Nat) :
    (indices.map ClaudeEvent.contentBlockStop).foldl stillOpen isOpen = isOpen.filter (· ∉ indices) := by
  induction indices generalizing isOpen with
  | nil => simp
  | cons idx rest tail =>
    rw [map_cons, foldl_cons, tail, stillOpen, List.filter_filter]
    apply filter_congr
    intro other _
    simp only [mem_cons, not_or, ← Bool.decide_and]
    congr 1
    simp only [and_comm]

variable {info : Info} {isOpen : List Nat}

/-- The converter's stops leave nothing open if and only if it knows of every open block. -/
theorem stopOpenBlocks_closes_iff : (stopOpenBlocks info).foldl stillOpen isOpen = [] ↔ Covers info isOpen := by
  rw [stopOpenBlocks_eq, show info.blocks.map (fun block => ClaudeEvent.contentBlockStop block.1) =
    (info.blocks.map Prod.fst).map ClaudeEvent.contentBlockStop by rw [List.map_map]; rfl, stillOpen_stops]
  simp [Covers]

variable (covers : Covers info isOpen)

include covers in
theorem stillOpen_stopOpenBlocks :
    (stopOpenBlocks info).foldl stillOpen isOpen = [] := stopOpenBlocks_closes_iff.mpr covers

theorem covers_nil (info : Info) : Covers info [] := nofun

include covers in
theorem Covers.of_blocks {other : Info} (blocks : other.blocks = info.blocks) : Covers other isOpen := by
  unfold Covers
  rw [blocks]
  exact covers

theorem covers_piece (info : Info) (piece : Piece) (isOpen : List Nat) (all : ∀ idx ∈ isOpen, idx = info.index) :
    Covers { info with lastMessagesType := piece.type } isOpen := by
  intro idx mem
  rw [all idx mem]
  cases piece <;> exact mem_singleton.mpr rfl

include covers in
theorem covers_newPiece (piece : Piece) :
    Covers { advance info with lastMessagesType := piece.type } (foldl stillOpen isOpen (stopOpenBlocks info ++
        [.contentBlockStart (advance info).index piece.block, .contentBlockDelta (advance info).index piece.delta])) := by
  apply covers_piece
  rw [foldl_append, stillOpen_stopOpenBlocks covers]
  intro idx mem
  exact mem_singleton.mp mem

theorem mem_tools (tools : info.lastMessagesType = .tools) {idx : Nat} : idx ∈ info.blocks.map Prod.fst ↔
      ∃ offset, offset ≤ info.toolCallMaxIndexOffset ∧ idx = info.toolCallBaseIndex + offset := by
  rw [Info.blocks, tools]
  simp only [toolBlocks, List.map_map, List.mem_map, mem_range, Function.comp]
  constructor
  all_goals
    rintro ⟨offset, bound, rfl⟩
    exact ⟨offset, by omega, rfl⟩

theorem stillOpen_toolLoop {base i maxOffset : Nat} {toolCalls : List ToolCallResponse}
    (within : ∀ idx ∈ isOpen, ∃ offset, offset ≤ maxOffset ∧ idx = base + offset) :
    ∀ idx ∈ (toolLoop base i maxOffset toolCalls).1.foldl stillOpen isOpen,
      ∃ offset, offset ≤ (toolLoop base i maxOffset toolCalls).2 ∧ idx = base + offset := by
  induction toolCalls generalizing i maxOffset isOpen with
  | nil => exact within
  | cons toolCall rest tail =>
    simp only [toolLoop, foldl_append]
    apply tail
    have before : ∀ idx ∈ isOpen, ∃ offset,
        offset ≤ (if maxOffset < toolCall.offset i then toolCall.offset i else maxOffset) ∧ idx = base + offset := by
      intro idx mem
      obtain ⟨offset, bound, same⟩ := within idx mem
      exact ⟨offset, by split <;> omega, same⟩
    unfold toolCallEvents
    split
    · have started : ∀ idx ∈ (base + toolCall.offset i) :: isOpen, ∃ offset,
          offset ≤ (if maxOffset < toolCall.offset i then toolCall.offset i else maxOffset) ∧ idx = base + offset := by
        intro idx mem
        rcases mem_cons.mp mem with rfl | mem
        · exact ⟨toolCall.offset i, by split <;> omega, rfl⟩
        · exact before idx mem
      split <;> exact started
    · split <;> exact before

include covers

theorem covers_laterTools (toolCalls : List ToolCallResponse) :
    Covers (laterTools toolCalls info).2 ((laterTools toolCalls info).1.foldl stillOpen isOpen) := by
  have type : (laterTools toolCalls info).2.lastMessagesType = .tools := enterTools_type info
  intro idx mem
  rw [mem_tools type]
  simp only [laterTools, foldl_append] at mem
  refine stillOpen_toolLoop ?_ idx mem
  unfold stopOthers enterTools
  split
  next tools =>
    intro idx mem
    exact (mem_tools tools).mp (covers idx mem)
  · rw [stillOpen_stopOpenBlocks covers]
    exact forall_mem_nil _

theorem covers_laterContent (delta : Delta) :
    Covers (laterContent delta info).2 ((laterContent delta info).1.foldl stillOpen isOpen) := by
  unfold laterContent
  split
  · exact covers_laterTools covers _
  split
  · exact covers
  next piece _ =>
  unfold laterPiece
  split
  · exact covers
  · exact covers_newPiece covers piece

omit covers

/-! ### One chunk -/

def Chunk.finished (chunk : Chunk) : Option String := chunk.choices.head?.bind Choice.finished

/-- A chunk after the first one ends the message: it has a finish reason and a usage, or it has no choice and a usage is known. -/
def Chunk.closes (chunk : Chunk) (known : Bool) : Bool :=
  if chunk.choices = [] then known else chunk.finished.isSome && chunk.usage.isSome

inductive Adds (isOpen : List Nat) : List ClaudeEvent × Info → Bool → Prop
  | more {events : List ClaudeEvent} {after : Info} (blocks : ∀ event ∈ events, event.ofEnd = false) (running : after.done = false)
      (covers : Covers after (events.foldl stillOpen isOpen)) : Adds isOpen (events, after) false
  | close {events : List ClaudeEvent} {after : Info} {reason : String} {usage : ClaudeUsage}
      (blocks : ∀ event ∈ events, event.ofEnd = false) (done : after.done = true) (stated : reason ≠ "")
      (none : events.foldl stillOpen isOpen = []) :
      Adds isOpen (events ++ [.messageDelta reason usage, .messageStop], after) true

variable {choice : Choice}

theorem finished_stated (finished : choice.finished = some reason) : reason ≠ "" := by
  unfold Choice.finished at finished
  split at finished
  · cases finished
  split at finished
  · cases finished
  next stated =>
    cases finished
    exact stated

theorem adds_usageChunk (running : info.done = false) (covers : Covers info isOpen) (chunk : Chunk) :
    Adds isOpen (usageChunk chunk info) (chunk.usage.or info.usage).isSome := by
  unfold usageChunk
  cases chunk.usage.or info.usage with
  | none => exact .more nofun running covers
  | some usage =>
    apply Adds.close (clean_of_blocks (stopOpenBlocks_ofBlock info)) rfl
    · split
      · decide
      next stated => exact stated
    · exact stillOpen_stopOpenBlocks covers

theorem adds_laterChunk (running : info.done = false) (covers : Covers info isOpen) (chunk : Chunk) :
    Adds isOpen (laterChunk chunk info) (chunk.closes (chunk.usage.or info.usage).isSome) := by
  unfold laterChunk Chunk.closes Chunk.finished
  split
  next none =>
    rw [if_pos none]
    exact adds_usageChunk running covers chunk
  next choice rest chosen =>
  have some : ¬choice :: rest = [] := cons_ne_nil _ _
  rw [chosen, if_neg some, head?_cons, bind_some]
  cases finished : choice.finished with
  | none =>
    exact .more (clean_of_blocks (laterContent_ofBlock choice.delta info))
      ((laterContent_same choice.delta info).done.trans running) (covers_laterContent covers choice.delta)
  | some reason =>
    have kept : Covers { info with finishReason := reason } isOpen := covers.of_blocks rfl
    cases stated : chunk.usage with
    | none => exact .more nofun running kept
    | some usage =>
      have same := laterContent_same choice.delta { info with finishReason := reason }
      have reasoned : stopReasonOpenAI2Claude (laterContent choice.delta { info with finishReason := reason }).2.finishReason ≠ "" := by
        rw [same.finishReason]
        exact stopReason_stated (finished_stated finished)
      simp only [if_neg (some_ne_none usage), some_or, summary, append_assoc, singleton_append]
      rw [← append_assoc]
      apply Adds.close _ rfl reasoned
      · rw [foldl_append]
        exact stillOpen_stopOpenBlocks (covers_laterContent kept choice.delta)
      · exact clean_append (clean_of_blocks (laterContent_ofBlock choice.delta _))
          (clean_of_blocks (stopOpenBlocks_ofBlock _))

/-! ### The chunks after the first one -/

def closesLater : Bool → List Chunk → Bool
  | _, [] => false
  | _, [last] => last.closes true
  | known, chunk :: next :: rest =>
    chunk.closes (known || chunk.usage.isSome) || closesLater (known || chunk.usage.isSome) (next :: rest)

theorem closesLater_cons (known : Bool) (chunk : Chunk) (scanned : List Chunk) (last : Chunk) :
    closesLater known (chunk :: (scanned ++ [last])) =
      (chunk.closes (known || chunk.usage.isSome) || closesLater (known || chunk.usage.isSome) (scanned ++ [last])) := by
  cases scanned <;> rfl

theorem isSome_or (stated known : Option Relay.Usage) : (stated.or known).isSome = (known.isSome || stated.isSome) := by
  cases stated <;> cases known <;> rfl

theorem run_done (done : info.done = true) (chunks : List Chunk) :
    (run handleStreamFormat info chunks).1 = [] ∧ (run handleStreamFormat info chunks).2.done = true := by
  induction chunks generalizing info with
  | nil => exact ⟨rfl, done⟩
  | cons chunk rest tail =>
    obtain ⟨silent, still⟩ := @tail (info.counted chunk) done
    rw [run, handleStreamFormat_done done]
    exact ⟨silent, still⟩

theorem closed_last (last : Chunk) (usage : Relay.Usage) (running : info.done = false)
    (counted : info.sendResponseCount ≠ 1) (clean : Clean before) (covers : Covers info (before.foldl stillOpen [])) :
    Closed (before ++ (handleFinalResponse last usage info).1) ↔ last.closes true = true := by
  have adds := @adds_laterChunk (info.known usage) _ running (covers.of_blocks rfl) last
  have known : (last.usage.or (info.known usage).usage).isSome = true := by
    rw [isSome_or]
    rfl
  rw [known] at adds
  rw [handleFinalResponse_later running counted]
  generalize laterChunk last (info.known usage) = sent at adds
  generalize last.closes true = closes at adds
  cases adds with
  | more blocks _ _ => exact ⟨fun closed => absurd closed (not_closed (clean_append clean blocks)), nofun⟩
  | close blocks _ stated none =>
    rw [← append_assoc, closed_iff (clean_append clean blocks) stated, foldl_append]
    exact ⟨fun _ => rfl, fun _ => none⟩

theorem closed_rest {scanned : List Chunk} (last : Chunk) (usage : Relay.Usage)
    (running : info.done = false) (pos : 0 < info.sendResponseCount) (counted : scanned ≠ [] ∨ 2 ≤ info.sendResponseCount)
    (clean : Clean before) (covers : Covers info (before.foldl stillOpen [])) :
    Closed (before ++ ((run handleStreamFormat info scanned).1 ++
        (handleFinalResponse last usage (run handleStreamFormat info scanned).2).1)) ↔
      closesLater info.usage.isSome (scanned ++ [last]) = true := by
  induction scanned generalizing info before with
  | nil =>
    have two : info.sendResponseCount ≠ 1 := by
      have := counted.resolve_left fun some => some rfl
      omega
    exact closed_last last usage running two clean covers
  | cons chunk scanned tail =>
    have adds := @adds_laterChunk (info.counted chunk) _ running (covers.of_blocks rfl) chunk
    have later := handleStreamFormat_later running pos chunk
    have count := handleStreamFormat_count info chunk
    have known : (chunk.usage.or (info.counted chunk).usage).isSome = (info.usage.isSome || chunk.usage.isSome) := by
      show (chunk.usage.or (chunk.usage.or info.usage)).isSome = _
      rw [isSome_or, isSome_or, Bool.or_assoc, Bool.or_self]
    have carried : (handleStreamFormat info chunk).2.usage.isSome = (info.usage.isSome || chunk.usage.isSome) := by
      rw [later, (laterChunk_kept chunk _).2]
      exact isSome_or chunk.usage info.usage
    rw [known, ← later] at adds
    rw [cons_append, closesLater_cons, run]
    generalize handleStreamFormat info chunk = sent at adds count carried
    generalize chunk.closes (info.usage.isSome || chunk.usage.isSome) = closes at adds
    cases adds with
    | @more events after blocks runs stillCovers =>
      have two : 2 ≤ after.sendResponseCount := by
        have : after.sendResponseCount = info.sendResponseCount + 1 := count
        omega
      rw [Bool.false_or, ← carried, append_assoc, ← append_assoc before]
      refine tail runs (Nat.zero_lt_of_lt two) (.inr two) (clean_append clean blocks) ?_
      rw [foldl_append]
      exact stillCovers
    | close blocks done stated none =>
      obtain ⟨silent, still⟩ := run_done done scanned
      rw [Bool.true_or, silent, handleFinalResponse_done still, append_nil, append_nil, ← append_assoc,
        closed_iff (clean_append clean blocks) stated, foldl_append]
      exact ⟨fun _ => rfl, fun _ => none⟩

/-! ### The first chunk -/

def opening (chunk : Chunk) (choice : Choice) (info : Info) : List ClaudeEvent × Info :=
  let tool := firstToolCall choice.delta info
  let content := firstContent choice.delta tool.2
  (.messageStart chunk.id chunk.model info.estimatePromptTokens :: tool.1 ++ content.1, content.2)

variable {rest : List Choice}

theorem firstChunk_eq {chunk : Chunk} (chosen : chunk.choices = choice :: rest) (info : Info) : firstChunk chunk info =
      ((opening chunk choice info).1 ++ (firstFinish chunk choice (opening chunk choice info).2).1,
        (firstFinish chunk choice (opening chunk choice info).2).2) := by
  simp only [firstChunk, chosen, opening]

variable (chunk : Chunk)

theorem opening_clean (choice : Choice) (info : Info) : Clean (opening chunk choice info).1 := by
  have content := clean_append (clean_of_blocks (firstToolCall_ofBlock choice.delta info))
    (clean_of_blocks (firstContent_ofBlock choice.delta (firstToolCall choice.delta info).2))
  exact forall_mem_cons.mpr ⟨rfl, content⟩

theorem opening_same (choice : Choice) (info : Info) : SameCall info (opening chunk choice info).2 := by
  have tool := firstToolCall_same choice.delta info
  have content := firstContent_same choice.delta (firstToolCall choice.delta info).2
  exact ⟨content.count.trans tool.count, content.done.trans tool.done, content.usage.trans tool.usage,
    content.finishReason.trans tool.finishReason⟩

include covers in
theorem covers_firstContent (delta : Delta) :
    Covers (firstContent delta info).2 ((firstContent delta info).1.foldl stillOpen isOpen) := by
  unfold firstContent
  split
  · exact covers
  next piece _ =>
  by_cases same : info.lastMessagesType = piece.type
  · have all : ∀ idx ∈ isOpen, idx = info.index := by
      intro idx mem
      have known := covers idx mem
      rw [Info.blocks, same] at known
      cases piece <;> exact mem_singleton.mp known
    simp only [firstPiece, stopOthers, if_pos same, nil_append, foldl_cons, foldl_nil, stillOpen]
    apply covers_piece
    intro idx mem
    rcases mem_cons.mp mem with rfl | mem
    · rfl
    · exact all idx mem
  · simp only [firstPiece, stopOthers, if_neg same]
    exact covers_newPiece covers piece

variable {delta : Delta}

theorem firstToolCall_none (none : delta.toolCalls = []) (info : Info) : firstToolCall delta info = ([], info) := by
  rw [firstToolCall, none]

def Info.toolFirst (info : Info) : Info :=
  { info with lastMessagesType := .tools, toolCallBaseIndex := 0, toolCallMaxIndexOffset := 0 }

theorem firstToolCall_some (some : delta.toolCalls ≠ []) (info : Info) (isOpen : List Nat) :
    (firstToolCall delta info).2 = info.toolFirst ∧ (firstToolCall delta info).1.foldl stillOpen isOpen = 0 :: isOpen := by
  obtain ⟨toolCall, rest, calls⟩ := exists_cons_of_ne_nil some
  rw [firstToolCall, calls]
  refine ⟨rfl, ?_⟩
  simp only [foldl_cons, stillOpen]
  split <;> rfl

theorem opening_isOpen (choice : Choice) (info : Info) (isOpen : List Nat) :
    (opening chunk choice info).1.foldl stillOpen isOpen =
      (firstContent choice.delta (firstToolCall choice.delta info).2).1.foldl stillOpen
        ((firstToolCall choice.delta info).1.foldl stillOpen isOpen) := by
  simp [opening, stillOpen]

/-- A piece after a tool call of the same chunk: block 0 is closed and block 1 is started. -/
theorem toolFirst_piece {piece : Piece} (spoken : delta.piece = some piece) (info : Info) (isOpen : List Nat) :
    (firstContent delta info.toolFirst).2 = { advance info.toolFirst with lastMessagesType := piece.type } ∧
      (firstContent delta info.toolFirst).1.foldl stillOpen isOpen = 1 :: isOpen.filter (· ≠ 0) := by
  have other : info.toolFirst.lastMessagesType ≠ piece.type := by
    cases piece <;> exact nofun
  rw [firstContent, spoken]
  constructor
  · simp only [firstPiece, if_neg other]
  · simp only [firstPiece, stopOthers, if_neg other]
    rfl

include covers in
theorem covers_opening_iff (bound : ∀ idx ∈ isOpen, idx ≤ 1) (chunk : Chunk) (choice : Choice) :
    Covers (opening chunk choice info).2 ((opening chunk choice info).1.foldl stillOpen isOpen) ↔
      ¬(1 ∈ isOpen ∧ choice.delta.toolCalls ≠ [] ∧ choice.delta.piece = none) := by
  rw [opening_isOpen]
  by_cases calls : choice.delta.toolCalls = []
  · have quiet := firstToolCall_none calls info
    simp only [opening, quiet]
    exact ⟨fun _ lost => lost.2.1 calls, fun _ => covers_firstContent covers choice.delta⟩
  · obtain ⟨state, started⟩ := firstToolCall_some calls info isOpen
    simp only [opening, state, started]
    cases spoken : choice.delta.piece with
    | none =>
      have silent : firstContent choice.delta info.toolFirst = ([], info.toolFirst) := by rw [firstContent, spoken]
      rw [silent]
      constructor
      · rintro known ⟨one, _⟩
        have zero := mem_singleton.mp (known 1 (mem_cons_of_mem 0 one))
        cases zero
      · intro kept idx mem
        have zero : idx = 0 := by
          rcases mem_cons.mp mem with zero | mem
          · exact zero
          · have below := bound idx mem
            have other : idx ≠ 1 := fun one => kept ⟨one ▸ mem, calls, rfl⟩
            omega
        rw [zero]
        exact mem_cons_self
    | some piece =>
      obtain ⟨state, moved⟩ := toolFirst_piece spoken info (0 :: isOpen)
      rw [state, moved]
      refine ⟨fun _ lost => some_ne_none _ lost.2.2, fun _ => covers_piece _ piece _ fun idx mem => ?_⟩
      rcases mem_cons.mp mem with one | mem
      · exact one
      obtain ⟨mem, pos⟩ := mem_filter.mp mem
      have pos : idx ≠ 0 := by simpa using pos
      have below : idx ≤ 1 := by
        rcases mem_cons.mp mem with zero | mem
        · omega
        · exact bound idx mem
      show idx = 1
      omega

theorem covers_opening (chunk : Chunk) (choice : Choice) (info : Info) :
    Covers (opening chunk choice info).2 ((opening chunk choice info).1.foldl stillOpen []) :=
  (covers_opening_iff (covers_nil info) nofun chunk choice).mpr nofun

theorem opening_fresh (fresh : info.Fresh) (chunk : Chunk) (choice : Choice) :
    (opening chunk choice info).1.foldl stillOpen [] = if choice.delta.toolCalls = [] then
      if choice.delta.piece = none then [] else [0] else if choice.delta.piece = none then [0] else [1] := by
  rw [opening_isOpen]
  by_cases calls : choice.delta.toolCalls = []
  · rw [firstToolCall_none calls, if_pos calls, firstContent]
    cases choice.delta.piece with
    | none => rfl
    | some piece =>
      have other : info.lastMessagesType ≠ piece.type := by
        rw [fresh.type]
        cases piece <;> exact nofun
      have unmoved : (advance info).index = 0 := by
        rw [advance, fresh.type]
        exact fresh.index
      have none : stopOpenBlocks info = [] := by rw [stopOpenBlocks, fresh.type]
      simp only [firstPiece, stopOthers, if_neg other, unmoved, none]
      rfl
  · obtain ⟨state, started⟩ := firstToolCall_some calls info []
    rw [state, started, if_neg calls]
    cases spoken : choice.delta.piece with
    | none => rw [firstContent, spoken]; rfl
    | some piece => exact (toolFirst_piece spoken info [0]).2

/-! ### The stream -/

def Chunk.toolsWithText (chunk : Chunk) : Prop := ∃ choice ∈ chunk.choices.head?, choice.delta.toolCalls ≠ [] ∧ choice.delta.piece ≠ none

def Chunk.toolsWithoutText (chunk : Chunk) : Prop := ∃ choice ∈ chunk.choices.head?, choice.delta.toolCalls ≠ [] ∧ choice.delta.piece = none

/-- The streams that are closed in the end. The last of two chunks is taken for the first one: it closes the message only with a
finish reason, and it forgets the block that has followed a tool call in the first chunk. -/
def Closes : List Chunk → Prop
  | [] => False
  | [only] => only.closes true = true
  | [first, last] =>
    if first.finished.isSome then first.usage.isSome = true
    else last.finished.isSome = true ∧ ¬(first.toolsWithText ∧ last.toolsWithoutText)
  | first :: rest =>
    if first.finished.isSome then first.usage.isSome = true else closesLater first.usage.isSome rest = true

theorem closed_finish {chunk : Chunk} (clean : Clean before) (finished : choice.finished = some reason) :
    Closed (before ++ (firstFinish chunk choice info).1) ↔
      (chunk.usage.or info.usage).isSome = true ∧ Covers info (before.foldl stillOpen []) := by
  have stops := clean_append clean (clean_of_blocks (stopOpenBlocks_ofBlock info))
  rw [firstFinish, finished]
  simp only
  cases chunk.usage.or info.usage with
  | none =>
    rw [summary, append_nil, ← append_assoc]
    exact ⟨fun closed => absurd closed (not_closed_bare stops), fun both => by cases both.1⟩
  | some usage =>
    rw [summary, append_assoc, singleton_append, ← append_assoc,
      closed_iff stops (stopReason_stated (finished_stated finished)), foldl_append]
    exact ⟨fun none => ⟨rfl, stopOpenBlocks_closes_iff.mp none⟩, fun both => stopOpenBlocks_closes_iff.mpr both.2⟩

theorem opening_unfinished {chunk : Chunk} (chosen : chunk.choices = choice :: rest)
    (unfinished : choice.finished = none) (info : Info) : firstChunk chunk info = opening chunk choice info := by
  rw [firstChunk_eq chosen, firstFinish, unfinished]
  simp

/-- The first chunk of a stream begins a message that the converter knows, or it ends it at once. -/
theorem first_unfinished (fresh : info.Fresh) {chunk : Chunk} (unfinished : chunk.finished = none) :
    (Clean (firstChunk chunk info).1) ∧ SameCall info (firstChunk chunk info).2 ∧
      Covers (firstChunk chunk info).2 ((firstChunk chunk info).1.foldl stillOpen []) ∧
      (∀ idx ∈ (firstChunk chunk info).1.foldl stillOpen [], idx ≤ 1) ∧
      (1 ∈ (firstChunk chunk info).1.foldl stillOpen [] ↔ chunk.toolsWithText) := by
  cases chosen : chunk.choices with
  | nil =>
    have only : firstChunk chunk info = ([.messageStart chunk.id chunk.model info.estimatePromptTokens], info) := by
      rw [firstChunk, chosen]
    rw [only, Chunk.toolsWithText, chosen]
    refine ⟨fun event sent => ?_, ⟨rfl, rfl, rfl, rfl⟩, covers_nil info, nofun, ?_⟩
    · rw [mem_singleton.mp sent]
      rfl
    · simp [stillOpen]
  | cons choice rest =>
    have unfinished : choice.finished = none := by
      rw [Chunk.finished, chosen] at unfinished
      exact unfinished
    rw [opening_unfinished chosen unfinished, Chunk.toolsWithText, chosen]
    refine ⟨opening_clean chunk choice info, opening_same chunk choice info, covers_opening chunk choice info, ?_⟩
    rw [opening_fresh fresh]
    by_cases calls : choice.delta.toolCalls = [] <;> by_cases silent : choice.delta.piece = none <;> simp [calls, silent]

theorem closed_second (last : Chunk) (usage : Relay.Usage) (running : info.done = false)
    (one : info.sendResponseCount = 1) (clean : Clean before)
    (covers : Covers info (before.foldl stillOpen [])) (bound : ∀ idx ∈ before.foldl stillOpen [], idx ≤ 1) :
    Closed (before ++ (handleFinalResponse last usage info).1) ↔
      last.finished.isSome = true ∧ ¬(1 ∈ before.foldl stillOpen [] ∧ last.toolsWithoutText) := by
  rw [handleFinalResponse_first running one, Chunk.finished, Chunk.toolsWithoutText]
  cases chosen : last.choices with
  | nil =>
    have only : (firstChunk last (info.known usage)).1 =
        [.messageStart last.id last.model (info.known usage).estimatePromptTokens] := by
      rw [firstChunk, chosen]
    rw [only]
    refine ⟨fun closed => absurd closed (not_closed (clean_append clean fun event sent => ?_)), fun both => by cases both.1⟩
    rw [mem_singleton.mp sent]
    rfl
  | cons choice rest =>
    rw [head?_cons, bind_some]
    cases finished : choice.finished with
    | none =>
      rw [opening_unfinished chosen finished]
      exact ⟨fun closed => absurd closed (not_closed (clean_append clean (opening_clean last choice _))), fun both => by cases both.1⟩
    | some reason =>
      have kept : Covers (info.known usage) (before.foldl stillOpen []) := covers.of_blocks rfl
      have known : (last.usage.or (opening last choice (info.known usage)).2.usage).isSome = true := by
        rw [(opening_same last choice (info.known usage)).usage, isSome_or]
        rfl
      rw [firstChunk_eq chosen, ← append_assoc, closed_finish (clean_append clean (opening_clean last choice _)) finished,
        foldl_append, covers_opening_iff kept bound last choice]
      simp [known]

theorem first_finished (info : Info) {chunk : Chunk} (finished : chunk.finished = some reason) :
    (Closed (firstChunk chunk info).1 ↔ (chunk.usage.or info.usage).isSome = true) ∧ (firstChunk chunk info).2.done = true := by
  unfold Chunk.finished at finished
  cases chosen : chunk.choices with
  | nil =>
    rw [chosen] at finished
    cases finished
  | cons choice rest =>
    rw [chosen] at finished
    have finished : choice.finished = some reason := finished
    rw [firstChunk_eq chosen, closed_finish (opening_clean chunk choice info) finished, (opening_same chunk choice info).usage]
    refine ⟨⟨And.left, fun known => ⟨known, covers_opening chunk choice info⟩⟩, ?_⟩
    rw [firstFinish, finished]

theorem closes_two (first last : Chunk) : Closes [first, last] ↔ if first.finished.isSome then first.usage.isSome = true
      else last.finished.isSome = true ∧ ¬(first.toolsWithText ∧ last.toolsWithoutText) := Iff.rfl

theorem closes_many (first second : Chunk) (scanned : List Chunk) (last : Chunk) :
    Closes (first :: second :: (scanned ++ [last])) ↔ if first.finished.isSome then first.usage.isSome = true
      else closesLater first.usage.isSome (second :: (scanned ++ [last])) = true := by
  cases scanned <;> exact Iff.rfl

/-- Which streams of `OaiStreamHandler` are closed in the end. -/
theorem oaiStreamHandler_closed_iff (upstream : Upstream) (tokens : Int) {chunks : List Chunk} (some : chunks ≠ []) :
    Closed (oaiStreamHandler upstream { estimatePromptTokens := tokens } chunks).1 ↔ Closes chunks := by
  obtain ⟨scanned, last, rfl⟩ := (eq_nil_or_concat chunks).resolve_left some
  obtain ⟨usage, handled⟩ := oaiStreamHandler_eq upstream { estimatePromptTokens := tokens } scanned last
  rw [concat_eq_append, handled]
  cases scanned with
  | nil =>
    exact @closed_last [] { estimatePromptTokens := tokens } last usage rfl Nat.zero_ne_one
      nofun (covers_nil _)
  | cons first scanned =>
    have counted : (({ estimatePromptTokens := tokens } : Info).counted first).Fresh := ⟨rfl, rfl, rfl⟩
    have known : (({ estimatePromptTokens := tokens } : Info).counted first).usage = first.usage := by
      show first.usage.or none = first.usage
      rw [or_none]
    have sent := @handleStreamFormat_first { estimatePromptTokens := tokens } rfl rfl first
    have one := handleStreamFormat_count { estimatePromptTokens := tokens } first
    rw [run, sent] at *
    cases finished : first.finished with
    | some reason =>
      obtain ⟨closed, done⟩ := first_finished (({ estimatePromptTokens := tokens } : Info).counted first) finished
      obtain ⟨silent, still⟩ := run_done done scanned
      simp only [silent, handleFinalResponse_done still, append_nil]
      rw [closed, known, isSome_or]
      cases scanned with
      | nil => rw [cons_append, nil_append, closes_two, finished]; simp
      | cons second scanned => rw [cons_append, cons_append, closes_many, finished]; simp
    | none =>
      obtain ⟨clean, same, covers, bound, left⟩ := first_unfinished counted finished
      cases scanned with
      | nil =>
        have final := closed_second last usage same.done one clean covers bound
        rw [left] at final
        rw [cons_append, nil_append, closes_two, finished]
        simpa [run] using final
      | cons second scanned =>
        have final := closed_rest last usage same.done (by omega) (.inl (cons_ne_nil second scanned)) clean covers
        rw [same.usage, known] at final
        rw [append_assoc, cons_append, cons_append, closes_many, finished]
        simpa using final

/-! ### The Responses protocol -/

def received (written : List Written) : List ClaudeEvent :=
  written.filterMap fun
    | .event event => some event
    | .chunk _ | .done => none

structure Unclosed (ch : Channel) (handler : Handler) : Prop where
  running : handler.info.done = false
  started : ch.format = .claude → handler.sentStart = true → 0 < handler.info.sendResponseCount

variable {ch : Channel} {handler : Handler}

variable (unclosed : Unclosed ch handler)

include unclosed in
theorem Unclosed.of_same {other : Handler}
    (info : other.info = handler.info) (start : other.sentStart = handler.sentStart) : Unclosed ch other := by
  refine ⟨?_, ?_⟩
  · rw [info]
    exact unclosed.running
  · rw [info, start]
    exact unclosed.started

structure Sends (holds : Handler → Prop) (res : List Written × Handler) : Prop where
  clean : ∀ event ∈ received res.1, event.ofEnd = false
  holds : holds res.2

theorem received_append (first second : List Written) : received (first ++ second) = received first ++ received second :=
  filterMap_append

variable {holds : Handler → Prop} {res : List Written × Handler}

theorem sends_nothing (here : holds handler) : Sends holds ([], handler) :=
  ⟨nofun, here⟩

theorem sends_unless {condition : Prop} [Decidable condition] (here : holds handler)
    (sends : Sends holds res) : Sends holds (if condition then ([], handler) else res) := by
  split
  · exact sends_nothing here
  · exact sends

theorem sends_andThen {first : List Written × Handler} {next : Handler → List Written × Handler} {middle : Handler → Prop}
    (one : Sends middle first) (two : ∀ handler, middle handler → Sends holds (next handler)) : Sends holds (andThen first next) := by
  have second := two first.2 one.holds
  refine ⟨?_, second.holds⟩
  rw [andThen, received_append]
  exact clean_append one.clean second.clean

/-- A chunk with a choice and without a usage never ends the message, unless a finish reason comes in the first one. -/
theorem plain_chunk (running : info.done = false) {chunk : Chunk}
    (chosen : chunk.choices = choice :: rest) (unknown : chunk.usage = none)
    (order : 0 < info.sendResponseCount ∨ choice.finished = none) :
    (Clean (handleStreamFormat info chunk).1) ∧ (handleStreamFormat info chunk).2.done = false := by
  by_cases first : info.sendResponseCount = 0
  · have unfinished : choice.finished = none := order.resolve_left (by omega)
    rw [handleStreamFormat_first running first, opening_unfinished chosen unfinished]
    exact ⟨opening_clean chunk choice _, (opening_same chunk choice _).done.trans running⟩
  · rw [handleStreamFormat_later running (by omega), laterChunk, chosen]
    simp only [unknown, if_true]
    cases choice.finished with
    | none =>
      exact ⟨clean_of_blocks (laterContent_ofBlock choice.delta _), (laterContent_same choice.delta _).done.trans running⟩
    | some reason => exact ⟨nofun, running⟩

theorem received_events (events : List ClaudeEvent) : received (events.map .event) = events := by
  unfold received
  rw [filterMap_map]
  exact filterMap_some

include unclosed in
theorem sends_chunk {chunk : Chunk} (chosen : chunk.choices = [choice]) (unknown : chunk.usage = none)
    (order : ch.format = .claude → 0 < handler.info.sendResponseCount ∨ choice.finished = none) :
    Sends (fun after => Unclosed ch after ∧ after.sentStart = handler.sentStart ∧
        (ch.format = .claude → 0 < after.info.sendResponseCount)) (sendChatChunk ch chunk handler) := by
  unfold sendChatChunk
  cases format : ch.format with
  | openAI => exact ⟨nofun, unclosed, rfl, nofun⟩
  | claude =>
    obtain ⟨clean, still⟩ := plain_chunk unclosed.running chosen unknown (order format)
    have counted : 0 < (handleStreamFormat handler.info chunk).2.sendResponseCount := by
      rw [handleStreamFormat_count]
      exact Nat.succ_pos _
    refine ⟨?_, ⟨still, fun _ _ => counted⟩, rfl, fun _ => counted⟩
    rw [received_events]
    exact clean

def Begun (ch : Channel) (handler : Handler) : Prop := Unclosed ch handler ∧ handler.sentStart = true

include unclosed in
theorem sends_start : Sends (Begun ch) (sendStartIfNeeded ch handler) := by
  unfold sendStartIfNeeded
  split
  next started => exact sends_nothing ⟨unclosed, started⟩
  refine sends_andThen (sends_chunk unclosed rfl rfl fun _ => .inr rfl) fun after sent => ?_
  exact sends_nothing ⟨⟨sent.1.running, fun claude _ => sent.2.2 claude⟩, rfl⟩

theorem sends_delta {started : Handler} (begun : Begun ch started)
    (info : handler.info = started.info) (start : handler.sentStart = started.sentStart) (delta : Delta) :
    Sends (Begun ch) (sendChatChunk ch (deltaChunk ch started delta) handler) := by
  have sent := @sends_chunk { delta := delta } ch handler (begun.1.of_same info start) (deltaChunk ch started delta)
    rfl rfl fun _ => .inr rfl
  exact ⟨sent.clean, sent.holds.1, sent.holds.2.1.trans (start.trans begun.2)⟩

theorem Sends.mono {weaker : Handler → Prop} (sends : Sends holds res)
    (weaken : ∀ handler, holds handler → weaker handler) : Sends weaker res :=
  ⟨sends.clean, weaken _ sends.holds⟩

section

variable (unclosed : Unclosed ch handler)
include unclosed

theorem sends_reasoning (delta : String) : Sends (Unclosed ch) (sendReasoningSummaryDelta ch delta handler) := by
  apply sends_unless unclosed
  apply @sends_andThen _ _ _ (Begun ch)
  · apply sends_start
    exact unclosed.of_same rfl rfl
  intro started begun
  apply @sends_andThen _ _ _ (Begun ch)
  · apply sends_delta begun <;> rfl
  · exact fun after sent => sends_nothing ⟨sent.1.running, sent.1.started⟩

theorem sends_toolCall (callID name args : String) :
    Sends (Unclosed ch) (sendToolCallDelta ch callID name args handler) := by
  apply sends_unless unclosed
  apply sends_unless unclosed
  apply sends_andThen (sends_start unclosed)
  intro started begun
  apply @sends_andThen _ _ _ (Begun ch)
  · apply sends_delta begun <;> rfl
  · exact fun after sent => sends_nothing ⟨sent.1.running, sent.1.started⟩

theorem sends_outputText (delta : String) : Sends (Unclosed ch) (sendOutputText ch delta handler) := by
  apply sends_andThen (sends_start unclosed)
  intro started begun
  apply sends_unless begun.1
  apply @Sends.mono (Begun ch) _ _ _ fun _ after => after.1
  apply sends_delta begun <;> rfl

theorem sends_item (item : ResponsesItem) : Sends (Unclosed ch) (handleItem ch item handler) := by
  apply sends_unless unclosed
  apply sends_toolCall
  exact unclosed.of_same rfl rfl

theorem sends_outputItem (event : ResponsesEvent) : Sends (Unclosed ch) (handleOutputItem ch event handler) := by
  unfold handleOutputItem
  split
  · exact sends_nothing unclosed
  next item _ => exact sends_item unclosed item

theorem sends_arguments (event : ResponsesEvent) : Sends (Unclosed ch) (handleArguments ch event handler) := by
  apply sends_unless unclosed
  apply sends_toolCall
  exact unclosed.of_same rfl rfl

end

theorem sends_stop (begun : Begun ch handler) : Sends (Unclosed ch) (sendStop ch handler) := by
  have counted := fun claude => begun.1.started claude begun.2
  simp only [sendStop]
  split
  · have told : Unclosed ch { handler with info := { handler.info with usage := some handler.usage } } :=
      ⟨begun.1.running, begun.1.started⟩
    exact (sends_chunk told rfl rfl fun claude => .inl (counted claude)).mono fun _ after => after.1
  · exact (sends_chunk begun.1 rfl rfl fun claude => .inl (counted claude)).mono fun _ after => after.1

theorem takeReport_same (event : ResponsesEvent) (handler : Handler) :
    (takeReport event handler).info = handler.info ∧ (takeReport event handler).sentStart = handler.sentStart := by
  unfold takeReport
  split <;> exact ⟨rfl, rfl⟩

include unclosed

theorem sends_completed (event : ResponsesEvent) : Sends (Unclosed ch) (handleCompleted ch event handler) := by
  obtain ⟨info, start⟩ := takeReport_same event handler
  apply sends_andThen (sends_start (unclosed.of_same info start))
  intro started begun
  apply sends_unless begun.1
  apply sends_andThen (sends_stop begun)
  exact fun after sent => sends_nothing (sent.of_same rfl rfl)

theorem sends_onEvent (event : ResponsesEvent) : Sends (Unclosed ch) (onEvent ch handler event) := by
  unfold onEvent
  cases event.type with
  | created => exact sends_nothing (unclosed.of_same rfl rfl)
  | reasoningSummaryTextDelta => exact sends_reasoning unclosed event.delta
  | reasoningSummaryTextDone =>
    apply sends_nothing
    split
    · exact unclosed.of_same rfl rfl
    · exact unclosed
  | outputTextDelta => exact sends_outputText unclosed event.delta
  | outputItemAdded | outputItemDone => exact sends_outputItem unclosed event
  | functionCallArgumentsDelta => exact sends_arguments unclosed event
  | completed => exact sends_completed unclosed event
  | error | failed | other => exact sends_nothing unclosed

omit unclosed

theorem received_lastLines (ch : Channel) (handler : Handler) : received (lastLines ch handler) = [] := by
  unfold lastLines
  split
  · rfl
  simp only
  split <;> rfl

include unclosed in
theorem sends_finishStream : Sends (Unclosed ch) (finishStream ch handler) := by
  have estimated : Unclosed ch (withUsage ch handler) := by
    unfold withUsage
    split
    · exact ⟨unclosed.running, unclosed.started⟩
    · exact unclosed
  apply sends_andThen (sends_start estimated)
  intro started begun
  apply sends_andThen (sends_unless begun.1 (sends_stop begun))
  intro after sent
  refine ⟨?_, sent⟩
  rw [received_lastLines]
  exact nofun

theorem responses_never_closed (ch : Channel) (tokens : Int) (model : String) (events : List ResponsesEvent) :
    ¬Closed (received (oaiResponsesToChatStreamHandler ch { estimatePromptTokens := tokens } model events).1) := by
  have start : Unclosed ch { info := { estimatePromptTokens := tokens }, model := model } :=
    ⟨rfl, nofun⟩
  have keeps (handler : Handler) (event : ResponsesEvent) (unclosed : Unclosed ch handler) :
      Unclosed ch (onEvent ch handler event).2 := (sends_onEvent unclosed event).holds
  have written : ∀ line ∈ (run (onEvent ch) { info := { estimatePromptTokens := tokens }, model := model }
      (untilError events).1).1, ∀ event, line = .event event → event.ofEnd = false := by
    refine run_outputs keeps (fun handler input unclosed line mem event same => ?_) start _
    apply (sends_onEvent unclosed input).clean
    exact mem_filterMap.mpr ⟨line, mem, by rw [same]⟩
  have scanned : Clean (received (run (onEvent ch) { info := { estimatePromptTokens := tokens }, model := model }
      (untilError events).1).1) := by
    intro event mem
    obtain ⟨line, sent, same⟩ := mem_filterMap.mp mem
    apply written line sent event
    cases line with
    | event other => exact congrArg Written.event (Option.some.inj same)
    | chunk | done => cases same
  have final := sends_finishStream (run_invariant keeps start (untilError events).1)
  apply not_closed
  simp only [oaiResponsesToChatStreamHandler]
  split
  · exact scanned
  rw [received_append]
  exact clean_append scanned final.clean

/-- Which streams are closed for a Claude client: those of chunks in which the end comes with its usage, none of a Responses
channel. -/
theorem claude_stream_closed_iff (upstream : Upstream) (ch : Channel) (tokens : Int) (model : String) (chunks : List Chunk)
    (events : List ResponsesEvent) :
    (chunks ≠ [] → (Closed (oaiStreamHandler upstream { estimatePromptTokens := tokens } chunks).1 ↔ Closes chunks)) ∧
    ¬Closed (received (oaiResponsesToChatStreamHandler ch { estimatePromptTokens := tokens } model events).1) :=
  ⟨fun some => oaiStreamHandler_closed_iff upstream tokens some, responses_never_closed ch tokens model events⟩

def bareFinishChunk : Chunk where
  choices := [{ finishReason := some "stop" }]

def claudeChannel : Channel := ⟨.claude, "", false, fun _ => someUsage⟩

def helloEvents : List ResponsesEvent :=
  [{ type := .created }, { type := .outputTextDelta, delta := "x" }, { type := .completed, response := some {} }]

theorem finish_with_usage_closed :
    Closed (oaiStreamHandler plainUpstream {} [textChunk "x", textChunk "y", finishChunk]).1 :=
  ((claude_stream_closed_iff plainUpstream claudeChannel 0 "" [textChunk "x", textChunk "y", finishChunk] []).1
    (cons_ne_nil _ _)).mpr ((closes_many (textChunk "x") (textChunk "y") [] finishChunk).mpr (by decide +kernel))

/-- Without a usage in the stream the message of a Claude client is never ended, nor is one that ends with `response.completed`. -/
theorem streams_left_open : (oaiStreamHandler plainUpstream {} [textChunk "x", textChunk "y", bareFinishChunk]).1 =
        [.messageStart "" "" 0, .contentBlockStart 0 .text, .contentBlockDelta 0 (.text "x"), .contentBlockDelta 0 (.text "y")] ∧
      ¬Closed (oaiStreamHandler plainUpstream {} [textChunk "x", textChunk "y", bareFinishChunk]).1 ∧
    oaiResponsesToChatStreamHandler claudeChannel {} "" helloEvents =
        ([.event (.messageStart "" "" 0), .event (.contentBlockStart 0 .text), .event (.contentBlockDelta 0 (.text "x"))], none) ∧
      ¬Closed (received (oaiResponsesToChatStreamHandler claudeChannel {} "" helloEvents).1) := by
  have left : (oaiStreamHandler plainUpstream {} [textChunk "x", textChunk "y", bareFinishChunk]).1 =
      [.messageStart "" "" 0, .contentBlockStart 0 .text, .contentBlockDelta 0 (.text "x"), .contentBlockDelta 0 (.text "y")] := by
    decide +kernel
  refine ⟨left, ?_, by decide +kernel, responses_never_closed claudeChannel 0 "" helloEvents⟩
  exact not_closed (by decide)

end Tokengine.Stream
