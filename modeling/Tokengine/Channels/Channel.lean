import Tokengine.Lib.Table
import Tokengine.Lib.Text

/-! Channels, and the abilities they stand for: one for each of their groups and models. -/

namespace Tokengine.Channels
open Text

def channelStatusEnabled : Int := 1

def channelStatusManuallyDisabled : Int := 2

def channelStatusAutoDisabled : Int := 3

abbrev IndexMap (α : Type) := Table (Prod.fst : Nat × α → Nat)

structure ChannelInfo where
  isMultiKey : Bool := false
  multiKeySize : Int := 0
  multiKeyStatusList : Option (IndexMap Int) := none
  multiKeyDisabledReason : Option (IndexMap String) := none
  multiKeyDisabledTime : Option (IndexMap Int) := none
  multiKeyPollingIndex : Int := 0
  multiKeyMode : String := ""
deriving DecidableEq

structure Channel where
  id : Int := 0
  type : Int := 0
  key : String := ""
  status : Int := 0
  weight : Option Nat := none
  models : String := ""
  group : String := ""
  priority : Option Int := none
  tag : Option String := none
  channelInfo : ChannelInfo := {}
deriving DecidableEq

def Channel.getPriority (ch : Channel) : Int := ch.priority.getD 0

def Channel.getWeight (ch : Channel) : Nat := ch.weight.getD 0

/-- The keys of a text: the items of a JSON array, which `jsonArray` reads, or the lines. -/
def keysOf (jsonArray : String → Option (List String)) (key : String) : List String :=
  match if hasPrefix (trimSpace key) "[" then jsonArray (trimSpace key) else none with
  | some keys => keys
  | none => split (trimChar key '\n') '\n'

/-- `Channel.GetKeys`. The keys that the cache keeps with a channel are these. -/
def Channel.getKeys (jsonArray : String → Option (List String)) (ch : Channel) : List String :=
  if ch.key = "" then [] else keysOf jsonArray ch.key

def names (text : String) : List String := ((split text ',').map trimSpace).filter fun name => name ≠ ""

def Channel.groupNames (ch : Channel) : List String := names ch.group

def Channel.modelNames (ch : Channel) : List String := names ch.models

structure Ability where
  (group model : String)
  channelId : Int
  enabled : Bool
  priority : Int
  weight : Nat
  tag : Option String
deriving DecidableEq

def Ability.key (ability : Ability) : String × String × Int := (ability.group, ability.model, ability.channelId)

/-- The row of one group and model. The column `priority` has the default 0. -/
def Channel.ability (ch : Channel) (pair : String × String) : Ability where
  group := pair.1
  model := pair.2
  channelId := ch.id
  enabled := ch.status = channelStatusEnabled
  priority := ch.getPriority
  weight := ch.getWeight
  tag := ch.tag

def Channel.pairs (ch : Channel) : List (String × String) :=
  ch.modelNames.flatMap fun model => ch.groupNames.map fun group => (group, model)

def pairKey (pair : String × String) : String := pair.1 ++ "|" ++ pair.2

def firstPairs : List String → List (String × String) → List (String × String)
  | _, [] => []
  | seen, pair :: rest =>
    if pairKey pair ∈ seen then firstPairs seen rest else pair :: firstPairs (pairKey pair :: seen) rest

/-- The abilities that `AddAbilities` and `UpdateAbilities` build. -/
def Channel.abilities (ch : Channel) : List Ability := (firstPairs [] ch.pairs).map ch.ability

def handleThinkingBudgetModel (name start wildcard : String) : String :=
  if hasPrefix name start && contains name "-thinking-" then wildcard else name

def formatMatchingModelName (name : String) : String :=
  let thinking :=
    if hasPrefix name "gemini-2.5-flash-lite" then
      handleThinkingBudgetModel name "gemini-2.5-flash-lite" "gemini-2.5-flash-lite-thinking-*"
    else if hasPrefix name "gemini-2.5-flash" then
      handleThinkingBudgetModel name "gemini-2.5-flash" "gemini-2.5-flash-thinking-*"
    else if hasPrefix name "gemini-2.5-pro" then
      handleThinkingBudgetModel name "gemini-2.5-pro" "gemini-2.5-pro-thinking-*"
    else name
  let gizmo := if hasPrefix thinking "gpt-4-gizmo" then "gpt-4-gizmo-*" else thinking
  if hasPrefix gizmo "gpt-4o-gizmo" then "gpt-4o-gizmo-*" else gizmo

def keyIndexOf (keys : List String) (usingKey : String) : Nat := if usingKey ∈ keys then keys.idxOf usingKey else 0

def ChannelInfo.statusList (info : ChannelInfo) : IndexMap Int := info.multiKeyStatusList.getD .empty

def ChannelInfo.setKey (info : ChannelInfo) (now : Int) (keyIndex : Nat) (status : Int) (reason : String) : ChannelInfo :=
  if status = channelStatusEnabled then { info with multiKeyStatusList := some (info.statusList.delete keyIndex) }
  else { info with
    multiKeyStatusList := some (info.statusList.save (keyIndex, status))
    multiKeyDisabledReason := some ((info.multiKeyDisabledReason.getD .empty).save (keyIndex, reason))
    multiKeyDisabledTime := some ((info.multiKeyDisabledTime.getD .empty).save (keyIndex, now)) }

/-- `handlerMultiKeyUpdate`: the status of one key, and of the channel once as many entries as keys are kept. -/
def handlerMultiKeyUpdate (jsonArray : String → Option (List String)) (now : Int) (ch : Channel) (usingKey : String)
    (status : Int) (reason : String) : Channel :=
  if ch.getKeys jsonArray = [] then { ch with status := status }
  else
    let info := ch.channelInfo.setKey now (keyIndexOf (ch.getKeys jsonArray) usingKey) status reason
    if info.multiKeySize ≤ info.statusList.rows.length then
      { ch with channelInfo := info, status := channelStatusAutoDisabled }
    else { ch with channelInfo := info }

end Tokengine.Channels
