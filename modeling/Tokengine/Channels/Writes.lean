import Tokengine.Channels.Store
import Tokengine.Lib.Completion

/-! The writes of each operation on channels that runs to its end alone, with all statements accepted. -/

namespace Tokengine.Channels
open Transactions Option

abbrev performed (writes : List Write) (db : Store) : Store := @applyAll schema writes db

def addWrites (ch : Channel) : List Write := (chunk 50 ch.abilities).map .createAbilities

def rebuildWrites (ch : Channel) : List Write := .deleteAbilities [ch.id] :: addWrites ch

/-- The struct that `Channel.Update` writes. -/
def editedChannel (env : Env) (db : Store) (ch : Channel) : Channel :=
  if ch.channelInfo.isMultiKey then
    let key := if ch.key ≠ "" then ch.key else (db.channels.lookup ch.id).map Channel.key |>.getD ""
    recountKeys env key ch
  else ch

/-- The channel whose abilities `Channel.Update` builds. -/
def updatedChannel (db : Store) (data : Channel) : Channel := ((apply (.updateChannel data) db).channels.lookup data.id).getD data

def statusWrites (env : Env) (ch : Channel) (usingKey : String) (status : Int) (reason : String) : List Write :=
  .saveChannel (withStatus env ch usingKey status reason) ::
    if shouldUpdateAbilities env ch usingKey status reason then
      [.updateAbilityStatus ch.id (status = channelStatusEnabled)]
    else []

def updateStatusWrites (env : Env) (db : Store) (cached : Cached) (channelId : Int) (usingKey : String) (status : Int)
    (reason : String) : List Write :=
  if cached.stops status then []
  else match db.channels.lookup channelId with
    | none => []
    | some ch => if ch.status = status then [] else statusWrites env ch usingKey status reason

def insertWrites (rows : List Channel) : List Write :=
  .createChannels (rows.map created) :: rows.flatMap fun ch => addWrites (created ch)

def deleteWrites (ids : List Int) : List Write := [.deleteChannels ids, .deleteAbilities ids]

def storeWrites (db : Store) (data : Channel) : List Write :=
  if data.id = 0 then [] else .updateChannel data :: rebuildWrites (updatedChannel db data)

def fixWrites (channels : List Channel) : List Write :=
  .deleteAbilities (channels.map Channel.id) :: channels.flatMap addWrites

def Op.writes (env : Env) (db : Store) : Op → List Write
  | .batchInsertChannels channels => (chunk 50 channels).flatMap insertWrites
  | .insert ch => .createChannels [created ch] :: addWrites (created ch)
  | .update ch => storeWrites db (editedChannel env db ch)
  | .delete channelId => if channelId = 0 then [] else deleteWrites [channelId]
  | .batchDeleteChannels ids => (chunk 200 ids).flatMap deleteWrites
  | .deleteChannelByStatus status => [.deleteChannelsByStatus [status]]
  | .deleteDisabledChannel => [.deleteChannelsByStatus [channelStatusAutoDisabled, channelStatusManuallyDisabled]]
  | .updateChannelStatus cached channelId usingKey status reason =>
    updateStatusWrites env db cached channelId usingKey status reason
  | .enableChannelByTag tag => [.updateStatusByTag tag channelStatusEnabled, .updateAbilityStatusByTag tag true]
  | .disableChannelByTag tag => [.updateStatusByTag tag channelStatusManuallyDisabled, .updateAbilityStatusByTag tag false]
  | .editChannelByTag tag edit => .updateChannelsByTag tag (edit.data tag) ::
    if edit.shouldReCreateAbilities then
      (answer (.channelsByTag (edit.newTag.getD tag)) (apply (.updateChannelsByTag tag (edit.data tag)) db)).flatMap rebuildWrites
    else [.updateAbilityByTag tag edit.newTag edit.priority edit.weight]
  | .batchSetChannelTag ids tag => .updateTag ids tag :: (answer (.channelsByIds ids) db).flatMap rebuildWrites
  | .fixAbility => .deleteAllAbilities :: (chunk 50 db.channels.rows).flatMap fixWrites

section Completes

variable {α : Type} {free : String → Prop} {acct : Local schema} {db : Store} {writes : List Write}
  {rest : Unit → Action schema Unit}

theorem completes_run (handle : Handle) (write : Write) (acct : Local schema) :
    Completes free acct (run handle write) (acct.tracks handle [write]) (.ok ()) :=
  @completes_execute schema free acct handle write

theorem completes_run_then {handle : Handle} {write : Write}
    (continues : ∀ acct, Completes free acct (rest ()) (acct.tracks handle writes) (.ok ())) :
    Completes free acct (run handle write >>= rest) (acct.tracks handle (write :: writes)) (.ok ()) :=
  completes_bind (completes_run handle write acct) (continues _)

theorem completes_find_attempt {handle : Handle} {req : Query} {after : Local schema} {res : Except String α}
    {rest : Except String (Result req) → Action schema α}
    (continues : Completes free acct (rest (.ok (answer req (acct.view handle)))) after res) :
    Completes free acct (attempt (find handle req) >>= rest) after res :=
  completes_attempt (@completes_query schema free acct handle req) continues

theorem completes_addAbilities (handle : Handle) (ch : Channel) (acct : Local schema) :
    Completes free acct (addAbilities handle ch) (acct.tracks handle (addWrites ch)) (.ok ()) := by
  rw [addWrites, List.map_eq_flatMap]
  exact completes_loop (fun acct rows => completes_run handle (.createAbilities rows) acct) _ acct

variable (ch : Channel) {body : Action schema Unit}

theorem completes_rebuildAbilities (acct : Local schema) :
    Completes free acct (rebuildAbilities ch) (acct.tracks .own (rebuildWrites ch)) (.ok ()) :=
  completes_run_then (completes_addAbilities .own ch)

theorem completes_global (completes : Completes free ⟨db, []⟩ body (Local.tracks ⟨db, []⟩ .global writes) (.ok ())) :
    Completes free ⟨db, []⟩ body ⟨applyAll writes db, []⟩ (.ok ()) := by
  rw [tracks_global] at completes
  exact completes

theorem completes_writes (inside : Completes free ⟨db, []⟩ body (Local.tracks ⟨db, []⟩ .own writes) (.ok ())) :
    Completes free ⟨db, []⟩ (transaction body) ⟨applyAll writes db, []⟩ (.ok ()) := by
  have committed := completes_transaction inside
  rw [tracks_own] at committed
  exact committed

theorem completes_updateAbilities (db : Store) :
    Completes free ⟨db, []⟩ (updateAbilities ch) ⟨applyAll (rebuildWrites ch) db, []⟩ (.ok ()) :=
  completes_writes (completes_rebuildAbilities ch _)

theorem completes_write_then {write : Write}
    (continues : Completes free ⟨apply write db, []⟩ (rest ()) ⟨applyAll writes (apply write db), []⟩ (.ok ())) :
    Completes free ⟨db, []⟩ (run .global write >>= rest) ⟨applyAll (write :: writes) db, []⟩ (.ok ()) :=
  completes_bind (completes_run .global write _) continues

theorem completes_insert (db : Store) : Completes free ⟨db, []⟩ (insert ch)
      ⟨applyAll (.createChannels [created ch] :: addWrites (created ch)) db, []⟩ (.ok ()) :=
  completes_write_then (completes_global (completes_addAbilities .global _ _))

theorem completes_insertPiece (rows : List Channel) (acct : Local schema) :
    Completes free acct (insertPiece rows) (acct.tracks .own (insertWrites rows)) (.ok ()) := by
  apply completes_run_then
  intro acct
  apply completes_loop
  intro acct ch
  exact completes_addAbilities .own (created ch) acct

theorem completes_batchInsertChannels (channels : List Channel) (db : Store) :
    Completes free ⟨db, []⟩ (batchInsertChannels channels) ⟨applyAll ((chunk 50 channels).flatMap insertWrites) db, []⟩ (.ok ()) := by
  unfold batchInsertChannels
  split
  next none =>
    rw [none]
    exact completes_pure ()
  · exact completes_writes (completes_loop (fun acct rows => completes_insertPiece rows acct) _ _)

theorem completes_edited (env : Env) (ch : Channel) (db : Store) :
    Completes free ⟨db, []⟩ (edited env ch) ⟨db, []⟩ (.ok (editedChannel env db ch)) := by
  unfold edited editedChannel
  split
  · have key : Completes free ⟨db, []⟩ (editedKey ch) ⟨db, []⟩
        (.ok (if ch.key ≠ "" then ch.key else ((db.channels.lookup ch.id).map Channel.key).getD "")) := by
      unfold editedKey
      split
      · exact completes_pure _
      · exact completes_find_attempt (completes_pure _)
    exact completes_bind key (completes_pure _)
  · exact completes_pure _

theorem completes_storeEdited (data : Channel) (db : Store) :
    ∃ res, Completes free ⟨db, []⟩ (storeEdited data) ⟨applyAll (storeWrites db data) db, []⟩ res := by
  unfold storeEdited storeWrites
  split
  · exact ⟨_, completes_throw _⟩
  · exact ⟨_, completes_write_then (completes_find_attempt (completes_updateAbilities _ _))⟩

theorem completes_delete (channelId : Int) (db : Store) : ∃ res, Completes free ⟨db, []⟩ (delete channelId)
      ⟨applyAll (if channelId = 0 then [] else deleteWrites [channelId]) db, []⟩ res := by
  unfold delete
  split
  · exact ⟨_, completes_throw _⟩
  · exact ⟨_, completes_write_then (completes_run .global _ _)⟩

theorem completes_batchDeleteChannels (ids : List Int) (db : Store) :
    Completes free ⟨db, []⟩ (batchDeleteChannels ids) ⟨applyAll ((chunk 200 ids).flatMap deleteWrites) db, []⟩ (.ok ()) := by
  unfold batchDeleteChannels
  split
  next none =>
    rw [none]
    exact completes_pure ()
  · apply completes_writes
    exact completes_loop (fun acct piece => completes_run_then fun acct => completes_run .own (.deleteAbilities piece) acct) _ _

theorem completes_saveStatus (env : Env) (ch : Channel) (usingKey : String) (status : Int) (reason : String) (db : Store) :
    Completes free ⟨db, []⟩ (saveStatus env ch usingKey status reason)
      ⟨applyAll (statusWrites env ch usingKey status reason) db, []⟩ (.ok true) := by
  unfold saveStatus statusWrites
  refine completes_attempt (completes_run .global _ _) ?_
  split
  · exact completes_attempt (completes_run .global _ _) (completes_pure _)
  · exact completes_pure _

theorem completes_updateChannelStatus (env : Env) (cached : Cached) (channelId : Int) (usingKey : String) (status : Int)
    (reason : String) (db : Store) :
    ∃ res, Completes free ⟨db, []⟩ (updateChannelStatus env cached channelId usingKey status reason)
      ⟨applyAll (updateStatusWrites env db cached channelId usingKey status reason) db, []⟩ (.ok res) := by
  unfold updateChannelStatus updateStatusWrites
  by_cases stops : cached.stops status = true
  · simp only [stops, if_true]
    exact ⟨_, completes_pure _⟩
  simp only [stops]
  cases found : db.channels.lookup channelId with
  | none =>
    refine ⟨false, completes_find_attempt ?_⟩
    simp only [answer, Local.view, found]
    exact completes_pure _
  | some ch =>
    by_cases same : ch.status = status
    · refine ⟨false, completes_find_attempt ?_⟩
      simp only [answer, Local.view, found, Except.toOption, bind_some, id, same, if_true]
      exact completes_pure _
    · refine ⟨true, completes_find_attempt ?_⟩
      simp only [answer, Local.view, found, Except.toOption, bind_some, id, same, if_false]
      exact completes_saveStatus env ch usingKey status reason db

theorem completes_editChannelByTag (tag : String) (edit : TagEdit) (db : Store) (env : Env) :
    Completes free ⟨db, []⟩ (editChannelByTag tag edit)
      ⟨applyAll (Op.writes env db (.editChannelByTag tag edit)) db, []⟩ (.ok ()) := by
  apply completes_write_then
  split
  · refine completes_find_attempt (completes_loop_settled (fun db ch => ?_) _ _)
    exact completes_attempt (completes_updateAbilities ch db) (completes_pure _)
  · exact completes_run .global _ _

theorem completes_batchSetChannelTag (ids : List Int) (tag : Option String) (db : Store) :
    Completes free ⟨db, []⟩ (batchSetChannelTag ids tag)
      ⟨applyAll (.updateTag ids tag :: (answer (.channelsByIds ids) db).flatMap rebuildWrites) db, []⟩ (.ok ()) := by
  apply completes_writes
  refine completes_bind (completes_run .own _ _) (completes_bind (@completes_query schema free _ .global _) ?_)
  exact completes_loop (fun acct ch => completes_rebuildAbilities ch acct) _ _

theorem completes_fixPiece (channels : List Channel) (db : Store) :
    Completes free ⟨db, []⟩ (fixPiece channels) ⟨applyAll (fixWrites channels) db, []⟩ (.ok ()) := by
  refine completes_attempt (completes_run .global _ _) ?_
  refine completes_loop_settled (fun db ch => ?_) _ _
  exact completes_attempt (completes_global (completes_addAbilities .global ch _)) (completes_pure _)

theorem completes_readCacheTables (acct : Local schema) :
    Completes free acct readCacheTables acct (.ok (acct.db.channels.rows, acct.db.abilities.rows)) :=
  completes_find_attempt (completes_find_attempt (completes_pure _))

theorem completes_fixAbility (db : Store) : Completes (fun _ => True) ⟨db, []⟩ fixAbility
      ⟨applyAll (.deleteAllAbilities :: (chunk 50 db.channels.rows).flatMap fixWrites) db, []⟩ (.ok ()) := by
  apply completes_withLock trivial
  refine completes_write_then (completes_bind (@completes_query schema _ _ .global _) ?_)
  change Completes _ _ (if db.channels.rows = [] then _ else _) _ _
  split
  next none =>
    rw [none]
    exact completes_pure ()
  · refine completes_bind (completes_loop_settled (fun db piece => completes_fixPiece piece db) _ _) ?_
    exact completes_bind (completes_readCacheTables _) (completes_pure ())

end Completes

theorem completes_op (env : Env) (op : Op) (db : Store) :
    ∃ res, Completes (fun _ => True) ⟨db, []⟩ (op.script env) ⟨applyAll (op.writes env db) db, []⟩ res := by
  cases op with
  | batchInsertChannels channels => exact ⟨_, completes_batchInsertChannels channels db⟩
  | insert ch => exact ⟨_, completes_insert ch db⟩
  | update ch =>
    obtain ⟨res, stored⟩ := completes_storeEdited (editedChannel env db ch) db
    exact ⟨res, completes_bind (completes_edited env ch db) stored⟩
  | delete channelId => exact completes_delete channelId db
  | batchDeleteChannels ids => exact ⟨_, completes_batchDeleteChannels ids db⟩
  | deleteChannelByStatus | deleteDisabledChannel => exact ⟨_, completes_run .global _ _⟩
  | updateChannelStatus cached channelId usingKey status reason =>
    obtain ⟨res, ended⟩ := completes_updateChannelStatus env cached channelId usingKey status reason db
    exact ⟨_, completes_bind ended (completes_pure ())⟩
  | enableChannelByTag | disableChannelByTag => exact ⟨_, completes_write_then (completes_run .global _ _)⟩
  | editChannelByTag tag edit => exact ⟨_, completes_editChannelByTag tag edit db env⟩
  | batchSetChannelTag ids tag => exact ⟨_, completes_batchSetChannelTag ids tag db⟩
  | fixAbility => exact ⟨_, completes_fixAbility db⟩

end Tokengine.Channels
