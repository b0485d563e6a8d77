import Tokengine.Channels.Cache

/-! The keys of a channel with several keys: the choice of the next key, and edits of the list of keys. -/

namespace Tokengine.Channels
open Transactions Text

def ChannelInfo.keyStatus (info : ChannelInfo) (idx : Nat) : Int :=
  ((info.statusList.lookup idx).map Prod.snd).getD channelStatusEnabled

def ChannelInfo.enabledIndexes (info : ChannelInfo) (count : Nat) : List Nat :=
  (List.range count).filter fun idx => info.keyStatus idx = channelStatusEnabled

def multiKeyModeRandom : String := "random"

/-! ### `GetNextEnabledKey` -/

/-- `CacheGetChannelInfo`: without the memory cache the row is read. -/
def cacheGetChannelInfo (cached : Cached) (id : Int) : Action schema ChannelInfo :=
  match cached with
  | some (some ch) => pure ch.channelInfo
  | some none => throw ("渠道# " ++ toString id ++ "，已不存在")
  | none => do
    let found ← find .global (.channel id)
    match found with
    | some ch => pure ch.channelInfo
    | none => throw "record not found"

def ChannelInfo.pollFrom (info : ChannelInfo) (count start : Nat) : Option Nat :=
  ((List.range count).map fun offset => (start + offset) % count).find? fun idx => info.keyStatus idx = channelStatusEnabled

/-- `SaveChannelInfo` writes the whole of the information that the caller holds. -/
def saveChannelInfo (cached : Cached) (ch : Channel) : Action schema Unit :=
  if cached.isNone then do
    let _ ← attempt (run .global (.saveChannelInfo ch.id ch.channelInfo))
    pure ()
  else pure ()

/-- The key and its place, and the object of the channel after the call. -/
abbrev Polled := (String × Nat) × Channel

def pollNextKey (cached : Cached) (ch : Channel) (keys : List String) (first : Nat) : Action schema Polled := do
  let info ← cacheGetChannelInfo cached ch.id
  let start := if info.multiKeyPollingIndex < 0 ∨ keys.length ≤ info.multiKeyPollingIndex then 0 else info.multiKeyPollingIndex.toNat
  match ch.channelInfo.pollFrom keys.length start with
  | some idx => do
    let ch := ch.setInfo { ch.channelInfo with multiKeyPollingIndex := ((idx + 1) % keys.length : Nat) }
    saveChannelInfo cached ch
    pure ((keys.getD idx "", idx), ch)
  | none => do
    saveChannelInfo cached ch
    pure ((keys.getD first "", first), ch)

/-- `GetNextEnabledKey` of a channel object that the caller has read earlier. -/
def getNextEnabledKey (env : Env) (cached : Cached) (random : Nat) (ch : Channel) : Action schema Polled :=
  if ch.channelInfo.isMultiKey then
    let keys := ch.getKeys env.jsonArray
    match keys, ch.channelInfo.enabledIndexes keys.length with
    | [], _ => throw "no keys available"
    | _, [] => throw "no enabled keys"
    | keys, first :: others =>
      if ch.channelInfo.multiKeyMode = multiKeyModeRandom then
        let idx := (first :: others).getD (random % (others.length + 1)) 0
        pure ((keys.getD idx "", idx), ch)
      else if ch.channelInfo.multiKeyMode = multiKeyModePolling then pollNextKey cached ch keys first
      else pure ((keys.getD first "", first), ch)
  else pure ((ch.key, 0), ch)

/-! ### Edits of the list of keys -/

/-- A request of `UpdateChannel`. -/
structure KeyEdit where
  channel : Channel
  multiKeyMode : Option String := none
  keyMode : Option String := none
  /-- The new keys of a Vertex AI channel with JSON keys, as they are parsed. -/
  vertexKeys : Option (Except String (List String)) := none

def dedupedNewKeys : List String → List String → List String
  | _, [] => []
  | seen, key :: rest =>
    if trimSpace key = "" ∨ trimSpace key ∈ seen then dedupedNewKeys seen rest
    else trimSpace key :: dedupedNewKeys (trimSpace key :: seen) rest

def existingKeys (env : Env) (key : String) : List String :=
  if hasPrefix (trimSpace key) "[" then (env.jsonArray (trimSpace key)).getD [] else split (trimChar key '\n') '\n'

def KeyEdit.newKeys (edit : KeyEdit) : Except String (List String) :=
  match edit.vertexKeys with
  | some (.error e) => .error ("追加密钥解析失败: " ++ e)
  | some (.ok keys) => .ok keys
  | none => .ok (((split edit.channel.key '\n').map trimSpace).filter fun key => key ≠ "")

def KeyEdit.info (edit : KeyEdit) (origin : Channel) : ChannelInfo :=
  { origin.channelInfo with multiKeyMode := (edit.multiKeyMode.filter fun mode => mode ≠ "").getD origin.channelInfo.multiKeyMode }

/-- The struct that `UpdateChannel` gives to `Channel.Update`. -/
def KeyEdit.merged (env : Env) (edit : KeyEdit) (origin : Channel) : Except String Channel :=
  if edit.keyMode = some "append" ∧ origin.channelInfo.isMultiKey = true ∧ origin.key ≠ "" then
    edit.newKeys.map fun newKeys =>
      let existing := existingKeys env origin.key
      { edit.channel with
        channelInfo := edit.info origin
        key := "\n".intercalate (existing ++ dedupedNewKeys ((existing.map trimSpace).filter fun key => key ≠ "") newKeys) }
  else .ok { edit.channel with channelInfo := edit.info origin }

/-- `UpdateChannel`, up to the rebuilding of the cache. -/
def updateChannelKeys (env : Env) (edit : KeyEdit) : Action schema Unit := do
  let found ← find .global (.channel edit.channel.id)
  match found with
  | none => throw "record not found"
  | some origin =>
    match edit.merged env origin with
    | .error e => throw e
    | .ok ch => update env ch

end Tokengine.Channels
