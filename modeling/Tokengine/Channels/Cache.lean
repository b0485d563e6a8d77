import Mathlib.Algebra.GroupWithZero.Nat
import Mathlib.Data.List.Sort
import Tokengine.Channels.Store

/-! The memory cache of channels: the lists from which a request is routed, and a copy of every channel. -/

namespace Tokengine.Channels
open Transactions Text

/-- `group2model2channels`. A group that has no map is `none`; a model that has no list has an empty one. -/
abbrev Lists := String → Option (String → List Int)

def Lists.get (lists : Lists) (group model : String) : List Int := ((lists group).map fun models => models model).getD []

structure Cache where
  lists : Lists
  channelsIDM : Table Channel.id

def Cache.empty : Cache := ⟨fun _ => none, .empty⟩

/-! ### `InitChannelCache` -/

def addListing (id : Int) (lists : Lists) (pair : String × String) : Option Lists :=
  (lists pair.1).map fun models =>
    Function.update lists pair.1 (some (Function.update models pair.2 (models pair.2 ++ [id])))

def Channel.listings (ch : Channel) : List (String × String) :=
  ch.groupNames.flatMap fun group => ch.modelNames.map fun model => (group, model)

def addChannel (lists : Lists) (ch : Channel) : Option Lists :=
  if ch.status = channelStatusEnabled then ch.listings.foldlM (addListing ch.id) lists else some lists

def groupLists (abilities : List Ability) : Lists :=
  fun group => if group ∈ abilities.map Ability.group then some fun _ => [] else none

def byPriority (channels : Table Channel.id) (ids : List Int) : List Int :=
  let priority := fun id => ((channels.lookup id).map Channel.getPriority).getD 0
  ids.insertionSort fun first second => priority second ≤ priority first

def multiKeyModePolling : String := "polling"

def ChannelInfo.polls (info : ChannelInfo) : Bool := info.isMultiKey && info.multiKeyMode = multiKeyModePolling

def keepPollingIndex (old : Table Channel.id) (ch : Channel) : Channel :=
  match if ch.channelInfo.polls then old.lookup ch.id else none with
  | none => ch
  | some previous =>
    if previous.channelInfo.polls then
      { ch with channelInfo := { ch.channelInfo with multiKeyPollingIndex := previous.channelInfo.multiKeyPollingIndex } }
    else ch

theorem keepPollingIndex_id (old : Table Channel.id) (ch : Channel) : (keepPollingIndex old ch).id = ch.id := by
  unfold keepPollingIndex
  split
  · rfl
  · split <;> rfl

/-- What `InitChannelCache` makes of the rows it has read; `none` is a runtime panic. -/
def initChannelCache (old : Cache) (channels : List Channel) (abilities : List Ability) : Option Cache :=
  let byId : Table Channel.id := channels.foldl Table.save .empty
  (channels.foldlM addChannel (groupLists abilities)).map fun lists =>
    { lists := fun group => (lists group).map fun models model => byPriority byId (models model)
      channelsIDM := byId.modify (keepPollingIndex old.channelsIDM) (keepPollingIndex_id old.channelsIDM) }

/-- `InitChannelCache`: the tables are read in two statements. -/
def rebuildCache (old : Cache) : Action schema (Option Cache) := do
  let read ← readCacheTables
  pure (initChannelCache old read.1 read.2)

/-! ### `UpdateChannelStatus` on the cache -/

/-- `CacheUpdateChannelStatus`: the first place in each list is removed. -/
def Cache.updateChannelStatus (cache : Cache) (id : Int) (status : Int) : Cache where
  lists := if status ≠ channelStatusEnabled then fun group => (cache.lists group).map fun models model => (models model).erase id
    else cache.lists
  channelsIDM := cache.channelsIDM.update id (Channel.setStatus status)

/-- What `UpdateChannelStatus` does to the cache before it turns to the database. -/
def updateCachedStatus (env : Env) (cache : Cache) (channelId : Int) (usingKey : String) (status : Int) (reason : String) : Cache :=
  match cache.channelsIDM.lookup channelId with
  | none => cache
  | some ch =>
    if ch.channelInfo.isMultiKey then
      { cache with
        channelsIDM := cache.channelsIDM.save (handlerMultiKeyUpdate env.jsonArray env.now ch usingKey status reason) }
    else if ch.status = status then cache
    else cache.updateChannelStatus channelId status

/-! ### `GetRandomSatisfiedChannel` -/

def channelTypeVolcEngine : Int := 45

def Channel.getGroups (ch : Channel) : List String :=
  if ch.group = "" then [] else (split (trimChar ch.group ',') ',').map trimSpace

def isSeedream (model : String) : Bool :=
  hasPrefix (toLower model) "doubao-seedream-" || hasPrefix (toLower model) "seedream-"

def satisfying (cache : Cache) (group model : String) : List Int :=
  match cache.lists.get group model with
  | [] => cache.lists.get group (formatMatchingModelName model)
  | ids => ids

def missingChannel (channelId : Int) : String :=
  "数据库一致性错误，渠道# " ++ toString channelId ++ " 不存在，请联系管理员修复"

def cachedChannels (cache : Cache) : List Int → Except String (List Channel)
  | [] => .ok []
  | id :: rest =>
    match cache.channelsIDM.lookup id with
    | none => .error (missingChannel id)
    | some ch => (cachedChannels cache rest).map fun channels => ch :: channels

def targetPriority (channels : List Channel) (retry : Nat) : Int :=
  let priorities := ((channels.map Channel.getPriority).dedup).insertionSort fun first second => second ≤ first
  priorities.getD (min retry (priorities.length - 1)) 0

def drawFrom (smoothingFactor smoothingAdjustment : Nat) : List Channel → Nat → Option Channel
  | [], _ => none
  | ch :: rest, randomWeight =>
    let share := ch.getWeight * smoothingFactor + smoothingAdjustment
    if randomWeight < share then some ch
    else drawFrom smoothingFactor smoothingAdjustment rest (randomWeight - share)

/-- The random choice among the channels of one priority. `random` is the source of `rand.Intn`. -/
def drawByWeight (targets : List Channel) (random : Nat) : Option Channel :=
  let sumWeight := (targets.map Channel.getWeight).sum
  if sumWeight = 0 then drawFrom 1 100 targets (random % (targets.length * 100))
  else if sumWeight / targets.length < 10 then drawFrom 100 0 targets (random % (sumWeight * 100))
  else drawFrom 1 0 targets (random % sumWeight)

def chooseAmong (group model : String) (retry random : Nat) (channels : List Channel) : Except String (Option Channel) :=
  let priority := targetPriority channels retry
  let targets := channels.filter fun ch => ch.getPriority = priority
  if targets = [] then
    .error ("no channel found, group: " ++ group ++ ", model: " ++ model ++ ", priority: " ++ toString priority)
  else
    match drawByWeight targets random with
    | some ch => .ok (some ch)
    | none => .error "channel not found"

def seedreamChannel (cache : Cache) (group model : String) : Option Channel :=
  if isSeedream model then
    cache.channelsIDM.rows.find? fun ch =>
      ch.type = channelTypeVolcEngine && ch.status = channelStatusEnabled && group ∈ ch.getGroups
  else none

/-- `GetRandomSatisfiedChannel` with the memory cache. -/
def getRandomSatisfiedChannel (cache : Cache) (group model : String) (retry random : Nat) : Except String (Option Channel) :=
  match satisfying cache group model with
  | [] => .ok (seedreamChannel cache group model)
  | [channelId] => (cachedChannels cache [channelId]).map List.head?
  | ids => (cachedChannels cache ids).bind (chooseAmong group model retry random)

end Tokengine.Channels
