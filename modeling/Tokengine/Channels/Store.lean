import Tokengine.Channels.Channel
import Tokengine.Users.Store

/-! The tables of channels and abilities, and the operations on channels as scripts of statements. -/

namespace Tokengine.Channels
open Transactions Interleaving Text Table
open Users (given)

structure Store where
  channels : Table Channel.id
  abilities : Table Ability.key

def Store.empty : Store := ⟨.empty, .empty⟩

/-- The row that `Create` inserts. Columns with a default take it in place of a zero value. -/
def created (ch : Channel) : Channel :=
  { ch with
    status := given 0 ch.status channelStatusEnabled
    group := given "" ch.group "default"
    priority := some ch.getPriority
    weight := some ch.getWeight }

/-- `Updates` with a struct: zero values are not written. -/
def Channel.updates (data row : Channel) : Channel :=
  { row with
    type := given 0 data.type row.type
    key := given "" data.key row.key
    status := given 0 data.status row.status
    weight := data.weight.or row.weight
    models := given "" data.models row.models
    group := given "" data.group row.group
    priority := data.priority.or row.priority
    tag := data.tag.or row.tag
    channelInfo := given {} data.channelInfo row.channelInfo }

/-- `Updates` with a struct on abilities. -/
def Ability.updates (newTag : Option String) (priority : Option Int) (weight : Option Nat) (row : Ability) : Ability :=
  { row with
    tag := newTag.or row.tag
    priority := priority.getD row.priority
    weight := given 0 (weight.getD 0) row.weight }

inductive Query
  | channel (id : Int)
  | channels
  | channelsByTag (tag : String)
  | channelsByIds (ids : List Int)
  | abilities

abbrev Result : Query → Type
  | .channel _ => Option Channel
  | .channels => List Channel
  | .channelsByTag _ => List Channel
  | .channelsByIds _ => List Channel
  | .abilities => List Ability

def answer : (query : Query) → Store → Result query
  | .channel id, db => db.channels.lookup id
  | .channels, db => db.channels.rows
  | .channelsByTag tag, db => db.channels.rows.filter fun row => row.tag = some tag
  | .channelsByIds ids, db => db.channels.rows.filter fun row => row.id ∈ ids
  | .abilities, db => db.abilities.rows

inductive Write
  | createChannels (rows : List Channel)
  | updateChannel (data : Channel)
  | updateChannelsByTag (tag : String) (data : Channel)
  | updateTag (ids : List Int) (tag : Option String)
  | updateStatusByTag (tag : String) (status : Int)
  /-- Every column but the key is written back. -/
  | saveChannel (row : Channel)
  | saveChannelInfo (id : Int) (info : ChannelInfo)
  | deleteChannels (ids : List Int)
  | deleteChannelsByStatus (statuses : List Int)
  | createAbilities (rows : List Ability)
  | deleteAbilities (ids : List Int)
  | deleteAllAbilities
  | updateAbilityStatus (id : Int) (enabled : Bool)
  | updateAbilityStatusByTag (tag : String) (enabled : Bool)
  | updateAbilityByTag (tag : String) (newTag : Option String) (priority : Option Int) (weight : Option Nat)

def revision {ρ : Type} (concerns : ρ → Bool) (change : ρ → ρ) (row : ρ) : ρ := if concerns row then change row else row

theorem revision_keeps {ρ κ : Type} {key : ρ → κ} (concerns : ρ → Bool) {change : ρ → ρ}
    (keeps : ∀ row, key (change row) = key row) (row : ρ) : key (revision concerns change row) = key row := by
  unfold revision
  split
  · exact keeps row
  · rfl

theorem revision_pos {ρ : Type} {concerns : ρ → Bool} {row : ρ} (concern : concerns row = true) (change : ρ → ρ) :
    revision concerns change row = change row := if_pos concern

theorem revision_neg {ρ : Type} {concerns : ρ → Bool} {row : ρ} (apart : ¬concerns row = true) (change : ρ → ρ) :
    revision concerns change row = row := if_neg apart

/-- `UPDATE channels SET … WHERE`. -/
def Store.setChannels (db : Store) (concerns : Channel → Bool) (change : Channel → Channel)
    (keeps : ∀ row, (change row).id = row.id) : Store :=
  { db with channels := db.channels.modify (revision concerns change) (revision_keeps concerns keeps) }

theorem revision_id (concerns : Channel → Bool) {change : Channel → Channel} (keeps : ∀ row, (change row).id = row.id)
    (row : Channel) : (revision concerns change row).id = row.id := revision_keeps concerns keeps row

theorem Channel.updates_id (data row : Channel) : (data.updates row).id = row.id := rfl

def Channel.setTag (tag : Option String) (row : Channel) : Channel := { row with tag := tag }

theorem Channel.setTag_id (tag : Option String) (row : Channel) : (row.setTag tag).id = row.id := rfl

def Channel.setStatus (status : Int) (row : Channel) : Channel := { row with status := status }

theorem Channel.setStatus_id (status : Int) (row : Channel) : (row.setStatus status).id = row.id := rfl

def Channel.setInfo (info : ChannelInfo) (row : Channel) : Channel := { row with channelInfo := info }

theorem Channel.setInfo_id (info : ChannelInfo) (row : Channel) : (row.setInfo info).id = row.id := rfl

/-- What `SaveWithoutKey` makes of the row of a channel. -/
def Channel.saveOver (ch row : Channel) : Channel := { ch with id := row.id, key := row.key }

theorem Channel.saveOver_id (ch row : Channel) : (ch.saveOver row).id = row.id := rfl

def Ability.setEnabled (enabled : Bool) (row : Ability) : Ability := { row with enabled := enabled }

theorem Ability.setEnabled_key (enabled : Bool) (row : Ability) : (row.setEnabled enabled).key = row.key := rfl

theorem Ability.updates_key (newTag : Option String) (priority : Option Int) (weight : Option Nat) (row : Ability) :
    (row.updates newTag priority weight).key = row.key := rfl

theorem channels_setChannels (db : Store) (concerns : Channel → Bool) (change : Channel → Channel)
    (keeps : ∀ row, (change row).id = row.id) :
    (db.setChannels concerns change keeps).channels.rows = db.channels.rows.map (revision concerns change) := rfl

/-- `UPDATE abilities SET … WHERE`. -/
def Store.setAbilities (db : Store) (concerns : Ability → Bool) (change : Ability → Ability)
    (keeps : ∀ row, (change row).key = row.key) : Store :=
  { db with abilities := db.abilities.modify (revision concerns change) (revision_keeps concerns keeps) }

def apply : Write → Store → Store
  | .createChannels rows, db => { db with channels := rows.foldl insertAbsent db.channels }
  | .updateChannel data, db => db.setChannels (fun row => row.id = data.id) data.updates data.updates_id
  | .updateChannelsByTag tag data, db => db.setChannels (fun row => row.tag = some tag) data.updates data.updates_id
  | .updateTag ids tag, db => db.setChannels (fun row => row.id ∈ ids) (Channel.setTag tag) (Channel.setTag_id tag)
  | .updateStatusByTag tag status, db =>
    db.setChannels (fun row => row.tag = some tag) (Channel.setStatus status) (Channel.setStatus_id status)
  | .saveChannel ch, db => db.setChannels (fun row => row.id = ch.id) ch.saveOver ch.saveOver_id
  | .saveChannelInfo id info, db => db.setChannels (fun row => row.id = id) (Channel.setInfo info) (Channel.setInfo_id info)
  | .deleteChannels ids, db => { db with channels := db.channels.filter fun row => row.id ∉ ids }
  | .deleteChannelsByStatus statuses, db => { db with channels := db.channels.filter fun row => row.status ∉ statuses }
  | .createAbilities rows, db => { db with abilities := rows.foldl insertAbsent db.abilities }
  | .deleteAbilities ids, db => { db with abilities := db.abilities.filter fun row => row.channelId ∉ ids }
  | .deleteAllAbilities, db => { db with abilities := .empty }
  | .updateAbilityStatus id enabled, db =>
    db.setAbilities (fun row => row.channelId = id) (Ability.setEnabled enabled) (Ability.setEnabled_key enabled)
  | .updateAbilityStatusByTag tag enabled, db =>
    db.setAbilities (fun row => row.tag = some tag) (Ability.setEnabled enabled) (Ability.setEnabled_key enabled)
  | .updateAbilityByTag tag newTag priority weight, db =>
    db.setAbilities (fun row => row.tag = some tag) (Ability.updates newTag priority weight)
      (Ability.updates_key newTag priority weight)

abbrev schema : Schema := ⟨Store, Query, Result, answer, Write, apply⟩

abbrev find (handle : Handle) (req : Query) : Action schema (Result req) := @Transactions.query schema handle req

abbrev run (handle : Handle) (write : Write) : Action schema Unit := @Transactions.execute schema handle write

/-- `Channel.AddAbilities`, through a transaction or not. -/
def addAbilities (handle : Handle) (ch : Channel) : Action schema Unit :=
  loop (fun _ rows => run handle (.createAbilities rows)) (chunk 50 ch.abilities) ()

/-- What `Channel.UpdateAbilities` does in a transaction. -/
def rebuildAbilities (ch : Channel) : Action schema Unit := do
  run .own (.deleteAbilities [ch.id])
  addAbilities .own ch

/-- `Channel.UpdateAbilities` without a transaction of the caller. -/
def updateAbilities (ch : Channel) : Action schema Unit := transaction (rebuildAbilities ch)

/-- `Channel.Insert`. The channel has the id that the table gives it. -/
def insert (ch : Channel) : Action schema Unit := do
  run .global (.createChannels [created ch])
  addAbilities .global (created ch)

def insertPiece (rows : List Channel) : Action schema Unit := do
  run .own (.createChannels (rows.map created))
  loop (fun _ ch => addAbilities .own (created ch)) rows ()

def batchInsertChannels (channels : List Channel) : Action schema Unit :=
  if channels = [] then pure ()
  else transaction (loop (fun _ rows => insertPiece rows) (chunk 50 channels) ())

structure Env where
  /-- The items of a text that is a JSON array. -/
  jsonArray : String → Option (List String)
  now : Int

/-- The keys that `Channel.Update` counts: an empty array counts as text. -/
def updateKeys (env : Env) (key : String) : List String :=
  if key = "" then []
  else
    match if hasPrefix (trimSpace key) "[" then (env.jsonArray (trimSpace key)).getD [] else [] with
    | [] => split (trimChar key '\n') '\n'
    | keys => keys

def recountKeys (env : Env) (key : String) (ch : Channel) : Channel :=
  let size := (updateKeys env key).length
  { ch with channelInfo := { ch.channelInfo with
      multiKeySize := size
      multiKeyStatusList := ch.channelInfo.multiKeyStatusList.map fun list => list.filter fun entry => entry.1 < size } }

def editedKey (ch : Channel) : Action schema String :=
  if ch.key ≠ "" then pure ch.key
  else do
    let found ← attempt (find .global (.channel ch.id))
    pure ((found.toOption.bind id).map Channel.key |>.getD "")

/-- The struct that `Channel.Update` writes. -/
def edited (env : Env) (ch : Channel) : Action schema Channel :=
  if ch.channelInfo.isMultiKey then do
    let key ← editedKey ch
    pure (recountKeys env key ch)
  else pure ch

def storeEdited (data : Channel) : Action schema Unit :=
  if data.id = 0 then throw "WHERE conditions required"
  else do
    run .global (.updateChannel data)
    let found ← attempt (find .global (.channel data.id))
    updateAbilities ((found.toOption.bind id).getD data)

/-- `Channel.Update`. -/
def update (env : Env) (ch : Channel) : Action schema Unit := do
  let data ← edited env ch
  storeEdited data

/-- `Channel.Delete`. -/
def delete (channelId : Int) : Action schema Unit :=
  if channelId = 0 then throw "WHERE conditions required"
  else do
    run .global (.deleteChannels [channelId])
    run .global (.deleteAbilities [channelId])

def deletePiece (ids : List Int) : Action schema Unit := do
  run .own (.deleteChannels ids)
  run .own (.deleteAbilities ids)

def batchDeleteChannels (ids : List Int) : Action schema Unit :=
  if ids = [] then pure ()
  else transaction (loop (fun _ piece => deletePiece piece) (chunk 200 ids) ())

def deleteChannelByStatus (status : Int) : Action schema Unit := run .global (.deleteChannelsByStatus [status])

def deleteDisabledChannel : Action schema Unit :=
  run .global (.deleteChannelsByStatus [channelStatusAutoDisabled, channelStatusManuallyDisabled])

/-- What the memory cache answers to `UpdateChannelStatus`: it may be off, and it may not know the channel. -/
abbrev Cached := Option (Option Channel)

def Cached.stops (status : Int) : Cached → Bool
  | none => false
  | some none => true
  | some (some ch) => !ch.channelInfo.isMultiKey && ch.status = status

/-- The row that `UpdateChannelStatus` saves. -/
def withStatus (env : Env) (ch : Channel) (usingKey : String) (status : Int) (reason : String) : Channel :=
  if ch.channelInfo.isMultiKey then handlerMultiKeyUpdate env.jsonArray env.now ch usingKey status reason
  else { ch with status := status }

def shouldUpdateAbilities (env : Env) (ch : Channel) (usingKey : String) (status : Int) (reason : String) : Bool :=
  !ch.channelInfo.isMultiKey || (withStatus env ch usingKey status reason).status ≠ ch.status

def saveStatus (env : Env) (ch : Channel) (usingKey : String) (status : Int) (reason : String) :
    Action schema Bool := do
  let saved ← attempt (run .global (.saveChannel (withStatus env ch usingKey status reason)))
  if shouldUpdateAbilities env ch usingKey status reason then do
    let _ ← attempt (run .global (.updateAbilityStatus ch.id (status = channelStatusEnabled)))
    pure saved.isOk
  else pure saved.isOk

/-- `UpdateChannelStatus` on the database. -/
def updateChannelStatus (env : Env) (cached : Cached) (channelId : Int) (usingKey : String) (status : Int)
    (reason : String) : Action schema Bool :=
  if cached.stops status then pure false
  else do
    let found ← attempt (find .global (.channel channelId))
    match found.toOption.bind id with
    | none => pure false
    | some ch =>
      if ch.status = status then pure false else saveStatus env ch usingKey status reason

def enableChannelByTag (tag : String) : Action schema Unit := do
  run .global (.updateStatusByTag tag channelStatusEnabled)
  run .global (.updateAbilityStatusByTag tag true)

def disableChannelByTag (tag : String) : Action schema Unit := do
  run .global (.updateStatusByTag tag channelStatusManuallyDisabled)
  run .global (.updateAbilityStatusByTag tag false)

/-- The columns that `EditChannelByTag` is asked to change. -/
structure TagEdit where
  newTag : Option String := none
  models : Option String := none
  group : Option String := none
  priority : Option Int := none
  weight : Option Nat := none

def TagEdit.data (edit : TagEdit) (tag : String) : Channel where
  tag := if edit.newTag = some tag then none else edit.newTag
  models := edit.models.getD ""
  group := edit.group.getD ""
  priority := edit.priority
  weight := edit.weight

def TagEdit.shouldReCreateAbilities (edit : TagEdit) : Bool := edit.models.getD "" ≠ "" || edit.group.getD "" ≠ ""

def recreateAbilities (channels : List Channel) : Action schema Unit :=
  loop (fun _ ch => do
    let _ ← attempt (updateAbilities ch)
    pure ()) channels ()

def editChannelByTag (tag : String) (edit : TagEdit) : Action schema Unit := do
  run .global (.updateChannelsByTag tag (edit.data tag))
  if edit.shouldReCreateAbilities then do
    let found ← attempt (find .global (.channelsByTag (edit.newTag.getD tag)))
    recreateAbilities (found.toOption.getD [])
  else run .global (.updateAbilityByTag tag edit.newTag edit.priority edit.weight)

/-- The transaction of `BatchSetChannelTag`. The channels are read outside of it. -/
def setTagTx (ids : List Int) (tag : Option String) : Action schema Unit := do
  run .own (.updateTag ids tag)
  let channels ← find .global (.channelsByIds ids)
  loop (fun _ ch => rebuildAbilities ch) channels ()

def batchSetChannelTag (ids : List Int) (tag : Option String) : Action schema Unit := transaction (setTagTx ids tag)

/-- The two reads of `InitChannelCache`; their errors are dropped. -/
def readCacheTables : Action schema (List Channel × List Ability) := do
  let channels ← attempt (find .global .channels)
  let abilities ← attempt (find .global .abilities)
  pure (channels.toOption.getD [], abilities.toOption.getD [])

/-- One piece of `FixAbility`: its errors are only counted. -/
def fixPiece (channels : List Channel) : Action schema Unit := do
  let deleted ← attempt (run .global (.deleteAbilities (channels.map Channel.id)))
  if deleted.isOk then
    loop (fun _ ch => do
      let _ ← attempt (addAbilities .global ch)
      pure ()) channels ()
  else pure ()

/-- What `FixAbility` does under its lock. It ends with `InitChannelCache` unless there are no channels. -/
def fixLocked : Action schema Unit := do
  run .global .deleteAllAbilities
  let channels ← find .global .channels
  if channels = [] then pure ()
  else do
    loop (fun _ piece => fixPiece piece) (chunk 50 channels) ()
    let _ ← readCacheTables
    pure ()

def fixAbility : Action schema Unit := withLock "fixLock" fixLocked

inductive Op
  | batchInsertChannels (channels : List Channel)
  | insert (ch : Channel)
  | update (ch : Channel)
  | delete (channelId : Int)
  | batchDeleteChannels (ids : List Int)
  | deleteChannelByStatus (status : Int)
  | deleteDisabledChannel
  | updateChannelStatus (cached : Cached) (channelId : Int) (usingKey : String) (status : Int) (reason : String)
  | enableChannelByTag (tag : String)
  | disableChannelByTag (tag : String)
  | editChannelByTag (tag : String) (edit : TagEdit)
  | batchSetChannelTag (ids : List Int) (tag : Option String)
  | fixAbility

def Op.script (env : Env) : Op → Action schema Unit
  | .batchInsertChannels channels => Channels.batchInsertChannels channels
  | .insert ch => Channels.insert ch
  | .update ch => Channels.update env ch
  | .delete channelId => Channels.delete channelId
  | .batchDeleteChannels ids => Channels.batchDeleteChannels ids
  | .deleteChannelByStatus status => Channels.deleteChannelByStatus status
  | .deleteDisabledChannel => Channels.deleteDisabledChannel
  | .updateChannelStatus cached channelId usingKey status reason => do
    let _ ← Channels.updateChannelStatus env cached channelId usingKey status reason
    pure ()
  | .enableChannelByTag tag => Channels.enableChannelByTag tag
  | .disableChannelByTag tag => Channels.disableChannelByTag tag
  | .editChannelByTag tag edit => Channels.editChannelByTag tag edit
  | .batchSetChannelTag ids tag => Channels.batchSetChannelTag ids tag
  | .fixAbility => Channels.fixAbility

end Tokengine.Channels
