import Mathlib.Data.List.Nodup
import Mathlib.Data.List.Perm.Subperm
import Tokengine.Lib.Text

/-! The redirection of model names. A channel's table gives a model another name, which the table may redirect in turn.
In compaction mode the last name is written back to the request, where the next attempt reads it. -/

namespace Tokengine.Relay.ModelMapping
open List Relation Text

def compactModelSuffix : String := "-openai-compact"

/-- `strings.TrimSuffix`. -/
def trimSuffix (text ending : String) : String :=
  if hasSuffix text ending then String.ofList (text.toList.take (text.length - ending.length)) else text

def withCompactModelSuffix (modelName : String) : String :=
  if hasSuffix modelName compactModelSuffix then modelName else modelName ++ compactModelSuffix

/-- The names that `RelayInfo`, its channel and the converted request hold. -/
structure Info where
  (originModelName upstreamModelName : String)
  isModelMapped : Bool
  requestModelName : String

/-- `InitChannelMeta` starts from the original model, which the context holds for a retry. -/
def initChannelMeta (originalModel : String) : Info := ⟨originalModel, originalModel, false, originalModel⟩

abbrev ModelMap := List (String × String)

inductive Walk where
  | unmapped
  | ended (currentModel : String) (isModelMapped : Bool)
  | cycle

/-- The loop of `ModelMappedHelper`, for at most `fuel` passes. -/
def follow (modelMap : ModelMap) (originModelName : String) : Nat → List String → String → Bool → Option Walk
  | 0, _, _, _ => none
  | fuel + 1, visitedModels, currentModel, isModelMapped =>
    match (modelMap.lookup currentModel).filter (· ≠ "") with
    | none => some (.ended currentModel isModelMapped)
    | some mappedModel =>
      if mappedModel ∈ visitedModels then
        if mappedModel = currentModel then
          if currentModel = originModelName then some .unmapped else some (.ended currentModel true)
        else some .cycle
      else follow modelMap originModelName fuel (mappedModel :: visitedModels) mappedModel true

def mappingModelName (isResponsesCompact : Bool) (originModelName : String) : String :=
  if isResponsesCompact then trimSuffix originModelName compactModelSuffix else originModelName

/-- What follows the mapping: compaction renames the request, and the converted request gets the upstream's name. -/
def setModelName (isResponsesCompact : Bool) (info : Info) : Info :=
  if isResponsesCompact then
    let finalUpstreamModelName :=
      if info.isModelMapped && info.upstreamModelName ≠ "" then info.upstreamModelName
      else mappingModelName true info.originModelName
    { info with
      upstreamModelName := finalUpstreamModelName
      originModelName := withCompactModelSuffix finalUpstreamModelName
      requestModelName := finalUpstreamModelName }
  else { info with requestModelName := info.upstreamModelName }

def Walk.outcome (isResponsesCompact : Bool) (info : Info) : Walk → Except String Info
  | .unmapped => .ok { info with isModelMapped := false }
  | .cycle => .error "model_mapping_contains_cycle"
  | .ended currentModel true =>
    .ok (setModelName isResponsesCompact { info with isModelMapped := true, upstreamModelName := currentModel })
  | .ended _ false => .ok (setModelName isResponsesCompact { info with isModelMapped := false })

/-- `ModelMappedHelper`. The loop is given one pass more than the table has entries; `none` would be a loop that goes on. -/
def modelMappedHelper (unmarshal : String → Option ModelMap) (modelMapping : String) (isResponsesCompact : Bool)
    (info : Info) : Option (Except String Info) :=
  if modelMapping = "" ∨ modelMapping = "\x7b\x7d" then some (.ok (setModelName isResponsesCompact info))
  else match unmarshal modelMapping with
    | none => some (.error "unmarshal_model_mapping_failed")
    | some modelMap =>
      let start := mappingModelName isResponsesCompact info.originModelName
      (follow modelMap info.originModelName (modelMap.length + 1) [start] start info.isModelMapped).map
        (Walk.outcome isResponsesCompact info)

/-- An entry that is neither empty nor the model itself. -/
def Redirects (modelMap : ModelMap) (model target : String) : Prop :=
  modelMap.lookup model = some target ∧ target ≠ "" ∧ target ≠ model

/-- The chain from a model enters a cycle; a model that maps to itself is none. -/
def Circles (modelMap : ModelMap) (start : String) : Prop :=
  ∃ model, ReflTransGen (Redirects modelMap) start model ∧ TransGen (Redirects modelMap) model model

def ChainEnd (modelMap : ModelMap) (start last : String) : Prop :=
  ReflTransGen (Redirects modelMap) start last ∧ ∀ target, ¬Redirects modelMap last target

variable {modelMap : ModelMap} {start cur last model origin : String} {visited : List String} {fuel : Nat}

theorem redirects_unique : Relator.RightUnique (Redirects modelMap) :=
  fun _ _ _ one other => Option.some.inj (one.1.symm.trans other.1)

theorem eq_of_stuck (stuck : ∀ target, ¬Redirects modelMap last target)
    (leads : ReflTransGen (Redirects modelMap) last model) : model = last := by
  rcases leads.cases_head with same | ⟨target, next, -⟩
  · exact same.symm
  · exact absurd next (stuck target)

theorem chainEnd_unique (one : ChainEnd modelMap start last) (two : ChainEnd modelMap start model) : model = last := by
  rcases ReflTransGen.total_of_right_unique redirects_unique one.1 two.1 with onward | back
  · exact eq_of_stuck one.2 onward
  · exact (eq_of_stuck two.2 back).symm

/-- The chain never leaves a cycle. -/
theorem around_of_leads (around : TransGen (Redirects modelMap) model model)
    (leads : ReflTransGen (Redirects modelMap) model last) : TransGen (Redirects modelMap) last last := by
  induction leads with
  | refl => exact around
  | tail _ next onward =>
    obtain ⟨middle, first, back⟩ := TransGen.head'_iff.mp onward
    cases redirects_unique first next
    exact TransGen.tail' back next

theorem not_circles (ends : ChainEnd modelMap start last) : ¬Circles modelMap start := by
  rintro ⟨model, leads, around⟩
  have onLast : TransGen (Redirects modelMap) last last := by
    rcases ReflTransGen.total_of_right_unique redirects_unique ends.1 leads with onward | back
    · rwa [eq_of_stuck ends.2 onward] at around
    · exact around_of_leads around back
  obtain ⟨target, next, -⟩ := TransGen.head'_iff.mp onLast
  exact ends.2 target next

/-- The visited names form the chain from the first to the current one. -/
structure Path (modelMap : ModelMap) (start : String) (visited : List String) (cur : String) : Prop where
  distinct : visited.Nodup
  named : visited ⊆ start :: modelMap.map Prod.snd
  onward : ∀ model ∈ visited, ReflTransGen (Redirects modelMap) model cur
  first : start ∈ visited
  last : cur ∈ visited
  filled : cur ≠ start → cur ≠ ""

theorem Path.next (path : Path modelMap start visited cur) (found : modelMap.lookup cur = some model)
    (filled : model ≠ "") (fresh : model ∉ visited) : Path modelMap start (model :: visited) model := by
  have redirects : Redirects modelMap cur model := ⟨found, filled, fun same => fresh (same ▸ path.last)⟩
  obtain ⟨before, after, split, -⟩ := lookup_eq_some_iff.mp found
  have target : model ∈ modelMap.map Prod.snd := by simp [split]
  refine ⟨nodup_cons.mpr ⟨fresh, path.distinct⟩, ?_, ?_, mem_cons_of_mem _ path.first, mem_cons_self, fun _ => filled⟩
  · exact cons_subset.mpr ⟨mem_cons_of_mem _ target, path.named⟩
  · intro model mem
    rcases mem_cons.mp mem with rfl | earlier
    · exact ReflTransGen.refl
    · exact (path.onward model earlier).tail redirects

/-- What the end of the loop tells of the chain. -/
def Walk.Describes (modelMap : ModelMap) (origin start : String) : Walk → Prop
  | .unmapped => ChainEnd modelMap start origin
  | .cycle => Circles modelMap start
  | .ended last isModelMapped => ChainEnd modelMap start last ∧ (isModelMapped = false → last = start) ∧
      (isModelMapped = true → last ≠ "" ∧ (origin = start → last ≠ start))

/-- Every pass adds a target to the visited names, so the passes are no more than the entries. -/
theorem follow_ends {isModelMapped : Bool} (path : Path modelMap start visited cur)
    (moved : isModelMapped = true ↔ cur ≠ start) (enough : modelMap.length + 1 < fuel + visited.length) :
    ∃ walk, follow modelMap origin fuel visited cur isModelMapped = some walk ∧
      walk.Describes modelMap origin start := by
  induction fuel generalizing visited cur isModelMapped with
  | zero =>
    have bounded := (subperm_of_subset path.distinct path.named).length_le
    simp only [length_cons, length_map] at bounded
    omega
  | succ fuel further =>
    have reached := path.onward start path.first
    rw [follow]
    split
    next missing =>
      have stuck : ∀ target, ¬Redirects modelMap cur target := by
        rintro target ⟨found, filled, -⟩
        simp [found, filled] at missing
      refine ⟨_, rfl, ⟨reached, stuck⟩, fun still => ?_, fun mapped => ?_⟩
      · simpa [still] using moved
      · exact ⟨path.filled (moved.mp mapped), fun _ => moved.mp mapped⟩
    next mapped target =>
    obtain ⟨found, filled⟩ := Option.filter_eq_some_iff.mp target
    have filled : mapped ≠ "" := of_decide_eq_true filled
    split
    next seen =>
      split
      next same =>
        have stuck : ∀ target, ¬Redirects modelMap cur target := by
          rintro target ⟨other, -, away⟩
          exact away ((Option.some.inj (other.symm.trans found)).trans same)
        split
        next own => exact ⟨_, rfl, own ▸ ⟨reached, stuck⟩⟩
        next foreign =>
          exact ⟨_, rfl, ⟨reached, stuck⟩, fun no => (nomatch no), fun _ => ⟨same ▸ filled, fun own => own ▸ foreign⟩⟩
      next other =>
        have next : Redirects modelMap cur mapped := ⟨found, filled, other⟩
        exact ⟨_, rfl, mapped, reached.tail next, TransGen.tail' (path.onward mapped seen) next⟩
    next fresh =>
      refine further (path.next found filled fresh) ?_ (by simp only [length_cons]; omega)
      exact iff_of_true rfl fun same => fresh (same ▸ path.first)

/-- The table that a channel's text stands for. -/
def TableOf (unmarshal : String → Option ModelMap) (modelMapping : String) : Option ModelMap :=
  if modelMapping = "" ∨ modelMapping = "\x7b\x7d" then some [] else unmarshal modelMapping

variable {unmarshal : String → Option ModelMap} {modelMapping : String}

/-- On a fresh channel the helper returns what a walk along the channel's table ends with. -/
theorem helper_ends (reads : TableOf unmarshal modelMapping = some modelMap) (isResponsesCompact : Bool) (model : String) :
    ∃ walk : Walk, walk.Describes modelMap model (mappingModelName isResponsesCompact model) ∧
      modelMappedHelper unmarshal modelMapping isResponsesCompact (initChannelMeta model) =
        some (walk.outcome isResponsesCompact (initChannelMeta model)) := by
  unfold TableOf at reads
  unfold modelMappedHelper
  split at reads
  next skipped =>
    cases reads
    rw [if_pos skipped]
    exact ⟨.ended _ false, ⟨⟨ReflTransGen.refl, fun _ next => nomatch next.1⟩, fun _ => rfl, fun no => nomatch no⟩, rfl⟩
  next given =>
  have path : Path modelMap (mappingModelName isResponsesCompact model) [mappingModelName isResponsesCompact model]
      (mappingModelName isResponsesCompact model) :=
    ⟨nodup_singleton _, by simp, fun name mem => mem_singleton.mp mem ▸ ReflTransGen.refl, mem_cons_self,
      mem_cons_self, fun away => absurd rfl away⟩
  obtain ⟨walk, ends, describes⟩ := @follow_ends modelMap _ _ model _ (modelMap.length + 1) false path (by simp) (by simp)
  refine ⟨walk, describes, ?_⟩
  rw [if_neg given, reads]
  exact congrArg (Option.map _) ends

/-- The helper ends, with an error exactly on a cycle and otherwise with the last model of the chain. -/
theorem mapping_follows_chain (unmarshal : String → Option ModelMap) (modelMapping model : String) (modelMap : ModelMap)
    (reads : TableOf unmarshal modelMapping = some modelMap) :
    ∃ outcome, modelMappedHelper unmarshal modelMapping false (initChannelMeta model) = some outcome ∧
      ((∃ message, outcome = .error message) ↔ Circles modelMap model) ∧
      ∀ info, outcome = .ok info → ChainEnd modelMap model info.upstreamModelName ∧
        (info.isModelMapped = true ↔ info.upstreamModelName ≠ model) := by
  obtain ⟨walk, describes, returns⟩ := helper_ends reads false model
  refine ⟨_, returns, ?_⟩
  cases walk with
  | unmapped =>
    refine ⟨iff_of_false nofun (not_circles describes), ?_⟩
    rintro _ ⟨⟩
    exact ⟨describes, iff_of_false nofun fun away => away rfl⟩
  | cycle => exact ⟨iff_of_true ⟨_, rfl⟩ describes, nofun⟩
  | ended last isModelMapped =>
    obtain ⟨ends, stays, moves⟩ := describes
    cases isModelMapped with
    | false =>
      refine ⟨iff_of_false nofun (not_circles ends), ?_⟩
      rintro _ ⟨⟩
      have same : last = model := stays rfl
      exact ⟨same ▸ ends, iff_of_false nofun fun away => away rfl⟩
    | true =>
      refine ⟨iff_of_false nofun (not_circles ends), ?_⟩
      rintro _ ⟨⟩
      exact ⟨ends, iff_of_true rfl ((moves rfl).2 rfl)⟩

theorem two_entries_chain :
    ∃ outcome, modelMappedHelper (fun _ => some [("a", "b"), ("b", "c")]) "table" false (initChannelMeta "a") = some outcome ∧
      ((∃ message, outcome = .error message) ↔ Circles [("a", "b"), ("b", "c")] "a") ∧
      ∀ info, outcome = .ok info → ChainEnd [("a", "b"), ("b", "c")] "a" info.upstreamModelName ∧
        (info.isModelMapped = true ↔ info.upstreamModelName ≠ "a") :=
  mapping_follows_chain _ "table" "a" _ rfl

/-! Compaction. Every attempt starts from the name that the one before has left in the request. -/

/-- What each attempt at a compaction sends, one for each channel's text, if every attempt fails. A text that cannot be
followed fails with a channel error before anything is sent, and the loop goes on to the next channel. -/
def sent (unmarshal : String → Option ModelMap) : List String → String → List (Option String)
  | [], _ => []
  | modelMapping :: others, originModelName =>
    match modelMappedHelper unmarshal modelMapping true (initChannelMeta originModelName) with
    | some (.ok info) => some info.requestModelName :: sent unmarshal others info.originModelName
    | some (.error _) => none :: sent unmarshal others originModelName
    | none => []

/-- What the channel's table makes of a model, if it can be followed to an end. -/
def Upstream (unmarshal : String → Option ModelMap) (modelMapping model upstream : String) : Prop :=
  ∃ modelMap, TableOf unmarshal modelMapping = some modelMap ∧ ChainEnd modelMap model upstream

/-- A model that the channel's table leads to an end is left as it is, up to the suffix. -/
def Keeps (unmarshal : String → Option ModelMap) (model modelMapping : String) : Prop :=
  ∀ last, Upstream unmarshal modelMapping model last → withCompactModelSuffix last = withCompactModelSuffix model

section
theorem hasSuffix_withCompactModelSuffix (model : String) :
    hasSuffix (withCompactModelSuffix model) compactModelSuffix = true := by
  unfold withCompactModelSuffix
  split
  · assumption
  · simp [hasSuffix]

theorem withCompactModelSuffix_twice (model : String) :
    withCompactModelSuffix (withCompactModelSuffix model) = withCompactModelSuffix model :=
  if_pos (hasSuffix_withCompactModelSuffix model)

theorem mappingModelName_compact (plain : hasSuffix model compactModelSuffix = false) :
    mappingModelName true (withCompactModelSuffix model) = model := by
  rw [mappingModelName, if_pos rfl, trimSuffix, if_pos (hasSuffix_withCompactModelSuffix model), withCompactModelSuffix,
    plain, if_neg Bool.false_ne_true]
  simp [← String.length_toList]

theorem helper_unreadable (unread : TableOf unmarshal modelMapping = none) (isResponsesCompact : Bool) (info : Info) :
    modelMappedHelper unmarshal modelMapping isResponsesCompact info = some (.error "unmarshal_model_mapping_failed") := by
  unfold TableOf at unread
  unfold modelMappedHelper
  split at unread
  next => cases unread
  next given => rw [if_neg given, unread]

/-- An attempt sends the end of the chain and leaves it to the next one as the original model, or leaves the request alone. -/
theorem attempt_sends (plain : hasSuffix model compactModelSuffix = false) (modelMapping : String) (others : List String) :
    (∀ upstream, ¬Upstream unmarshal modelMapping model upstream) ∧
        sent unmarshal (modelMapping :: others) (withCompactModelSuffix model) =
          none :: sent unmarshal others (withCompactModelSuffix model) ∨
      ∃ upstream, Upstream unmarshal modelMapping model upstream ∧
        sent unmarshal (modelMapping :: others) (withCompactModelSuffix model) =
          some upstream :: sent unmarshal others (withCompactModelSuffix upstream) := by
  cases reads : TableOf unmarshal modelMapping with
  | none =>
    refine Or.inl ⟨?_, by rw [sent, helper_unreadable reads]⟩
    rintro upstream ⟨modelMap, other, -⟩
    exact nomatch reads.symm.trans other
  | some modelMap =>
  obtain ⟨walk, describes, returns⟩ := helper_ends reads true (withCompactModelSuffix model)
  rw [sent, returns]
  have base := mappingModelName_compact plain
  rw [base] at describes
  cases walk with
  | unmapped =>
    refine Or.inr ⟨_, ⟨modelMap, reads, describes⟩, ?_⟩
    rw [withCompactModelSuffix_twice]
    rfl
  | cycle =>
    refine Or.inl ⟨?_, rfl⟩
    rintro upstream ⟨other, same, ends⟩
    cases reads.symm.trans same
    exact not_circles ends describes
  | ended last isModelMapped =>
    obtain ⟨ends, stays, moves⟩ := describes
    refine Or.inr ⟨last, ⟨modelMap, reads, ends⟩, ?_⟩
    cases isModelMapped with
    | false =>
      rw [stays rfl]
      simp [Walk.outcome, setModelName, initChannelMeta, base]
    | true => simp [Walk.outcome, setModelName, (moves rfl).1]

theorem sent_after (plain : hasSuffix model compactModelSuffix = false) {channels : List String}
    (keeps : ∀ ch ∈ channels, Keeps unmarshal model ch) (others : List String) :
    (sent unmarshal (channels ++ others) (withCompactModelSuffix model)).drop channels.length =
      sent unmarshal others (withCompactModelSuffix model) := by
  induction channels with
  | nil => rfl
  | cons ch channels tail =>
    obtain ⟨keep, later⟩ := forall_mem_cons.mp keeps
    rcases attempt_sends plain ch (channels ++ others) with ⟨-, sends⟩ | ⟨upstream, ends, sends⟩
    · rw [cons_append, sends]
      exact tail later
    · rw [cons_append, sends, keep upstream ends]
      exact tail later

end

/-- After channels that leave the client's model as it is or cannot be followed, an attempt sends the end of that model's
chain, and nothing if the chain has no end. -/
theorem compaction_starts_from_model (unmarshal : String → Option ModelMap) (model : String)
    (plain : hasSuffix model compactModelSuffix = false) (earlier others : List String)
    (keeps : ∀ ch ∈ earlier, Keeps unmarshal model ch) (modelMapping : String) :
    ∃ upstream, (sent unmarshal (earlier ++ modelMapping :: others) (withCompactModelSuffix model))[earlier.length]? =
      some upstream ∧ ∀ last, upstream = some last ↔ Upstream unmarshal modelMapping model last := by
  rw [← head?_drop, sent_after plain keeps]
  rcases attempt_sends plain modelMapping others with ⟨endless, sends⟩ | ⟨last, ⟨modelMap, reads, ends⟩, sends⟩
  · exact ⟨none, by rw [sends, head?_cons], fun last => iff_of_false nofun (endless last)⟩
  · refine ⟨some last, by rw [sends, head?_cons], fun other => ⟨?_, ?_⟩⟩
    · rintro ⟨⟩
      exact ⟨modelMap, reads, ends⟩
    · rintro ⟨_, same, others⟩
      cases reads.symm.trans same
      rw [chainEnd_unique ends others]

/-- The first channel's table is circular, the second channel has none. -/
theorem compaction_after_other_channels :
    ∃ upstream, (sent (fun text => if text = "loop" then some [("m", "n"), ("n", "m")] else some [("m", "a")])
      (["loop", ""] ++ ["table"]) (withCompactModelSuffix "m"))[2]? = some upstream ∧ ∀ last, upstream = some last ↔
        Upstream (fun text => if text = "loop" then some [("m", "n"), ("n", "m")] else some [("m", "a")]) "table" "m" last := by
  refine compaction_starts_from_model _ "m" (by decide) ["loop", ""] [] ?_ "table"
  rintro ch mem last ⟨modelMap, reads, ends⟩
  rcases mem_pair.mp mem with rfl | rfl
  · cases reads
    have there : Redirects [("m", "n"), ("n", "m")] "m" "n" := ⟨rfl, by decide, by decide⟩
    have back : Redirects [("m", "n"), ("n", "m")] "n" "m" := ⟨rfl, by decide, by decide⟩
    exact absurd ⟨"m", ReflTransGen.refl, (TransGen.single there).tail back⟩ (not_circles ends)
  · cases reads
    have stuck : ∀ target, ¬Redirects [] "m" target := fun _ next => nomatch next.1
    rw [eq_of_stuck stuck ends.1]

/-- The second channel has no table. It is sent what the first one's has made of the client's model. -/
theorem compaction_sends_earlier_target :
    sent (fun _ => some [("m", "a")]) ["table", ""] (withCompactModelSuffix "m") = [some "a", some "a"] ∧
      ChainEnd [] "m" "m" :=
  ⟨by decide +kernel, ReflTransGen.refl, fun _ next => nomatch next.1⟩

end Tokengine.Relay.ModelMapping
