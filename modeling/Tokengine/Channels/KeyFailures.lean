import Tokengine.Channels.Keys
import Tokengine.Channels.Operations

/-! Failures of keys. Callers work with copies of a channel that they have read earlier; what they write back is the
information of the copy. -/

namespace Tokengine.Channels
open Transactions Interleaving Runs List Option Table Text

/-! ### What the calls make of the row -/

/-- `UpdateChannelStatus` with the row that it has read. -/
def reported (env : Env) (cached : Cached) (copy : Channel) (usingKey : String) (status : Int) (reason : String)
    (row : Channel) : Channel :=
  if cached.stops status = true ∨ copy.status = status then row
  else (withStatus env copy usingKey status reason).saveOver row

/-- `SaveChannelInfo` at the end of `GetNextEnabledKey`. -/
def polled (copy : Channel) (idx : Int) (row : Channel) : Channel :=
  row.setInfo { copy.channelInfo with multiKeyPollingIndex := idx }

/-- The text of the keys after an edit; `existing` is read for it when the struct has none. -/
def editedText (data : Channel) (existing : String) : String := if data.key ≠ "" then data.key else existing

/-- The `Updates` of `UpdateChannel` with the row that it has read. -/
def rewritten (env : Env) (edit : KeyEdit) (copy : Channel) (existing : String) (row : Channel) : Channel :=
  match edit.merged env copy with
  | .error _ => row
  | .ok data =>
    if data.channelInfo.isMultiKey then (recountKeys env (editedText data existing) data).updates row else data.updates row

/-! ### The system -/

/-- The row of a channel, the copies that callers hold, and the keys that have failed and not been enabled since. -/
structure Keyed where
  row : Channel
  copies : Nat → Option Channel
  failed : List String

inductive KeyEvent
  | read (pid : Nat)
  | updateChannelStatus (pid : Nat) (cached : Cached) (usingKey : String) (status : Int) (reason : String)
  /-- Without the memory cache, the information is saved with a new polling index. -/
  | getNextEnabledKey (pid : Nat) (idx : Int)
  | updateChannel (pid : Nat) (existing : String) (edit : KeyEdit)

def noteKey (keys failed : List String) (usingKey : String) (status : Int) : List String :=
  if usingKey ∉ keys then failed
  else if status = channelStatusEnabled then failed.filter fun key => key ≠ usingKey
  else usingKey :: failed

def Keyed.step (env : Env) (state : Keyed) : KeyEvent → Option Keyed
  | .read pid => some { state with copies := Function.update state.copies pid (some state.row) }
  | .updateChannelStatus pid cached usingKey status reason => (state.copies pid).map fun copy =>
    { state with
      row := reported env cached copy usingKey status reason state.row
      failed := noteKey (state.row.getKeys env.jsonArray) state.failed usingKey status }
  | .getNextEnabledKey pid idx => (state.copies pid).map fun copy =>
    { state with
      row := polled copy idx state.row
      copies := Function.update state.copies pid (some (polled copy idx copy)) }
  | .updateChannel pid existing edit => (state.copies pid).map fun copy =>
    { state with
      row := rewritten env edit copy existing state.row
      failed := state.failed.filter fun key => key ∈ (rewritten env edit copy existing state.row).getKeys env.jsonArray }

/-! ### The steps are those of the code: what a call does once it has read its copy -/

section Runs

variable {env : Env} {db : Store} {row copy : Channel}

theorem lookup_saveChannel {saved : Channel} (found : db.channels.lookup saved.id = some row) :
    (apply (.saveChannel saved) db).channels.lookup saved.id = some (saved.saveOver row) := by
  simp [apply, Store.setChannels, lookup_modify, found, revision, (lookup_some found).2]

theorem lookup_storeWrites {data : Channel} (stored : db.channels.lookup data.id = some row) (named : data.id ≠ 0) :
    (performed (storeWrites db data) db).channels.lookup data.id = some (data.updates row) := by
  rw [storeWrites, if_neg named, performed_cons, (rebuilds_rebuildWrites _).channels]
  simp [apply, Store.setChannels, lookup_modify, stored, revision, (lookup_some stored).2]

theorem merged_spec {edit : KeyEdit} {data : Channel} (merges : edit.merged env copy = .ok data) :
    data.id = edit.channel.id ∧ data.channelInfo = edit.info copy := by
  unfold KeyEdit.merged at merges
  split at merges
  · cases parsed : edit.newKeys with
    | error e =>
      rw [parsed] at merges
      cases merges
    | ok keys =>
      rw [parsed] at merges
      cases merges
      exact ⟨rfl, rfl⟩
  · cases merges
    exact ⟨rfl, rfl⟩

variable (stored : db.channels.lookup copy.id = some row)
include stored

theorem lookup_statusWrites (usingKey : String) (status : Int) (reason : String) :
    (performed (statusWrites env copy usingKey status reason) db).channels.lookup copy.id =
      some ((withStatus env copy usingKey status reason).saveOver row) := by
  have sameId := (sameRows_withStatus env copy usingKey status reason).id
  have saved : (apply (.saveChannel (withStatus env copy usingKey status reason)) db).channels.lookup copy.id =
      some ((withStatus env copy usingKey status reason).saveOver row) := by
    rw [← sameId] at stored ⊢
    exact lookup_saveChannel stored
  simp only [statusWrites, performed_cons]
  split <;> exact saved

/-- The information that polling saves is that of the copy, with an index. -/
theorem completes_polled (random : Nat) :
    ∃ after res, Completes (fun _ => True) ⟨db, []⟩ (getNextEnabledKey env none random copy) ⟨after, []⟩ res ∧
      (after = db ∨ ∃ idx, after.channels.lookup copy.id = some (polled copy idx row)) := by
  have saves : ∀ (idx : Int) (answer : String × Nat), ∃ after res,
      Completes (fun _ => True) ⟨db, []⟩ (saveChannelInfo none (polled copy idx copy) >>= fun _ =>
        (pure (answer, polled copy idx copy) : Action schema Polled)) ⟨after, []⟩ res ∧
      after.channels.lookup copy.id = some (polled copy idx row) := by
    intro idx answer
    have written : Completes (fun _ => True) ⟨db, []⟩ (saveChannelInfo none (polled copy idx copy))
        ⟨apply (.saveChannelInfo copy.id (polled copy idx copy).channelInfo) db, []⟩ (.ok ()) :=
      completes_attempt (completes_run .global _ _) (completes_pure ())
    refine ⟨_, _, completes_bind written (completes_pure _), ?_⟩
    simp [apply, Store.setChannels, lookup_modify, stored, revision, (lookup_some stored).2, polled, Channel.setInfo]
  have reads : Completes (fun _ => True) ⟨db, []⟩ (cacheGetChannelInfo none copy.id) ⟨db, []⟩ (.ok row.channelInfo) := by
    refine completes_bind (@completes_query schema _ ⟨db, []⟩ .global (.channel copy.id)) ?_
    have found : schema.answer (.channel copy.id) (Local.view ⟨db, []⟩ .global) = some row := stored
    rw [found]
    exact completes_pure _
  unfold getNextEnabledKey
  split
  · dsimp only
    split
    · exact ⟨db, _, completes_throw _, .inl rfl⟩
    · exact ⟨db, _, completes_throw _, .inl rfl⟩
    next first _ _ _ =>
    split
    · exact ⟨db, _, completes_pure _, .inl rfl⟩
    split
    · unfold pollNextKey
      cases found : copy.channelInfo.pollFrom (copy.getKeys env.jsonArray).length
          (if row.channelInfo.multiKeyPollingIndex < 0 ∨
            (copy.getKeys env.jsonArray).length ≤ row.channelInfo.multiKeyPollingIndex then 0
          else row.channelInfo.multiKeyPollingIndex.toNat) with
      | some idx =>
        obtain ⟨after, res, written, saved⟩ := saves ((idx + 1) % (copy.getKeys env.jsonArray).length : Nat) (_, idx)
        refine ⟨after, res, completes_bind reads ?_, .inr ⟨_, saved⟩⟩
        dsimp only
        rw [found]
        exact written
      | none =>
        obtain ⟨after, res, written, saved⟩ := saves copy.channelInfo.multiKeyPollingIndex (_, first)
        refine ⟨after, res, completes_bind reads ?_, .inr ⟨_, saved⟩⟩
        dsimp only
        rw [found]
        exact written
    · exact ⟨db, _, completes_pure _, .inl rfl⟩
  · exact ⟨db, _, completes_pure _, .inl rfl⟩

theorem completes_reported {cached : Cached} {status : Int}
    (goes : ¬(cached.stops status = true ∨ copy.status = status)) (usingKey reason : String) : ∃ after res,
    Completes (fun _ => True) ⟨db, []⟩ (saveStatus env copy usingKey status reason) ⟨after, []⟩ res ∧
      after.channels.lookup copy.id = some (reported env cached copy usingKey status reason row) := by
  refine ⟨_, _, completes_saveStatus env copy usingKey status reason db, ?_⟩
  rw [reported, if_neg goes]
  exact lookup_statusWrites stored usingKey status reason

theorem completes_rewritten (named : copy.id ≠ 0) {edit : KeyEdit}
    (mine : edit.channel.id = copy.id) {data : Channel} (merges : edit.merged env copy = .ok data) : ∃ after res,
    Completes (fun _ => True) ⟨db, []⟩ (update env data) ⟨after, []⟩ res ∧
      after.channels.lookup copy.id = some (rewritten env edit copy row.key row) := by
  have same : data.id = copy.id := (merged_spec merges).1.trans mine
  have kept : (editedChannel env db data).id = data.id := by
    unfold editedChannel
    split <;> rfl
  have edits : editedChannel env db data =
      if data.channelInfo.isMultiKey then recountKeys env (editedText data row.key) data else data := by
    rw [editedChannel, same, stored]
    rfl
  obtain ⟨res, runs⟩ := @completes_storeEdited (fun _ => True) (editedChannel env db data) db
  refine ⟨_, res, completes_bind (completes_edited env data db) runs, ?_⟩
  have written := @lookup_storeWrites db row (editedChannel env db data) (by rw [kept, same]; exact stored)
    (by rw [kept, same]; exact named)
  rw [kept, same, edits] at written
  rw [edits, rewritten, merges]
  refine written.trans ?_
  dsimp only
  split <;> rfl

end Runs

structure Keyed.Marked (env : Env) (state : Keyed) : Prop where
  multi : state.row.channelInfo.isMultiKey = true
  within : ∀ key ∈ state.failed, key ∈ state.row.getKeys env.jsonArray
  exactly : ∀ idx, state.row.channelInfo.keyStatus idx ≠ channelStatusEnabled ↔
    ∃ key ∈ state.failed, (state.row.getKeys env.jsonArray).idxOf key = idx

def Current (copy row : Channel) : Prop :=
  copy.channelInfo.isMultiKey = true ∧ ∀ idx, copy.channelInfo.keyStatus idx = row.channelInfo.keyStatus idx

def KeyEvent.Attributes (env : Env) (state : Keyed) : KeyEvent → Prop
  | .read _ => True
  | .updateChannelStatus pid cached usingKey status _ => ∀ copy, state.copies pid = some copy →
    (cached.stops status = true ∨ copy.status = status → usingKey ∈ state.row.getKeys env.jsonArray →
      (usingKey ∈ state.failed ↔ status ≠ channelStatusEnabled)) ∧
    (¬(cached.stops status = true ∨ copy.status = status) →
      Current copy state.row ∧ copy.key = state.row.key ∧ usingKey ∈ state.row.getKeys env.jsonArray)
  | .getNextEnabledKey pid _ => ∀ copy, state.copies pid = some copy → Current copy state.row
  | .updateChannel pid existing edit => ∀ copy, state.copies pid = some copy →
    Current copy state.row ∧ existing = state.row.key ∧ ∀ data, edit.merged env copy = .ok data →
      state.row.getKeys env.jsonArray <+: Channel.getKeys env.jsonArray { key := editedText data existing }

/-! ### The states of the keys -/

theorem keyStatus_setKey (info : ChannelInfo) (now : Int) (position : Nat) (status : Int) (reason : String) (idx : Nat) :
    (info.setKey now position status reason).keyStatus idx = if idx = position then status else info.keyStatus idx := by
  unfold ChannelInfo.setKey
  split
  next enables =>
    have list : ({ info with multiKeyStatusList := some (info.statusList.delete position) } : ChannelInfo).statusList =
        info.statusList.delete position := rfl
    rw [ChannelInfo.keyStatus, list, lookup_delete, enables]
    split <;> rfl
  · have list : ({ info with
        multiKeyStatusList := some (info.statusList.save (position, status))
        multiKeyDisabledReason := some ((info.multiKeyDisabledReason.getD .empty).save (position, reason))
        multiKeyDisabledTime := some ((info.multiKeyDisabledTime.getD .empty).save (position, now)) } : ChannelInfo).statusList =
        info.statusList.save (position, status) := rfl
    rw [ChannelInfo.keyStatus, list, lookup_save]
    split <;> rfl

theorem keyStatus_recountKeys (env : Env) (key : String) (ch : Channel) (idx : Nat) :
    (recountKeys env key ch).channelInfo.keyStatus idx =
      if idx < (updateKeys env key).length then ch.channelInfo.keyStatus idx else channelStatusEnabled := by
  have list : (recountKeys env key ch).channelInfo.statusList =
      ch.channelInfo.statusList.filter fun entry => decide (entry.1 < (updateKeys env key).length) := by
    unfold recountKeys ChannelInfo.statusList
    cases ch.channelInfo.multiKeyStatusList <;> rfl
  have filtered := lookup_filter (fun position => decide (position < (updateKeys env key).length))
    ch.channelInfo.statusList idx
  rw [ChannelInfo.keyStatus, list, filtered]
  by_cases inside : idx < (updateKeys env key).length
  · rw [if_pos (decide_eq_true inside), if_pos inside]
    rfl
  · rw [if_neg (by simpa using inside), if_neg inside]
    rfl

/-- `Channel.Update` counts the keys that `GetKeys` finds. -/
theorem updateKeys_eq (env : Env) {key : String} (some : Channel.getKeys env.jsonArray { key := key } ≠ []) :
    updateKeys env key = Channel.getKeys env.jsonArray { key := key } := by
  unfold updateKeys Channel.getKeys keysOf at *
  by_cases empty : key = ""
  · simp [empty] at some
  by_cases array : hasPrefix (trimSpace key) "[" = true
  · simp only [array, if_true] at some ⊢
    cases parsed : env.jsonArray (trimSpace key) with
    | none => rfl
    | some keys =>
      cases keys with
      | nil => simp [parsed] at some
      | cons first rest => rfl
  · simp [array]

/-! ### One event -/

theorem getKeys_congr (jsonArray : String → Option (List String)) {first second : Channel} (same : first.key = second.key) :
    first.getKeys jsonArray = second.getKeys jsonArray := by
  unfold Channel.getKeys
  rw [same]

variable {env : Env} {state : Keyed}

theorem marked_congr {after : Keyed} (marked : state.Marked env) (multi : after.row.channelInfo.isMultiKey = true)
    (keys : after.row.getKeys env.jsonArray = state.row.getKeys env.jsonArray)
    (statuses : ∀ idx, after.row.channelInfo.keyStatus idx = state.row.channelInfo.keyStatus idx)
    (failed : ∀ key, key ∈ after.failed ↔ key ∈ state.failed) : after.Marked env := by
  refine ⟨multi, fun key mem => ?_, fun idx => ?_⟩
  · rw [keys]
    exact marked.within key ((failed key).mp mem)
  · rw [statuses, marked.exactly, keys]
    simp only [failed]

variable {keys failed : List String} {usingKey : String} {status : Int}

theorem mem_noteKey_same (noted : usingKey ∈ keys → (usingKey ∈ failed ↔ status ≠ channelStatusEnabled)) (key : String) :
    key ∈ noteKey keys failed usingKey status ↔ key ∈ failed := by
  unfold noteKey
  split
  · exact Iff.rfl
  next listed =>
  have known := noted (not_not.mp listed)
  split
  next enables =>
    have absent : usingKey ∉ failed := fun mem => known.mp mem enables
    simp only [List.mem_filter, decide_eq_true_eq, and_iff_left_iff_imp]
    exact fun mem same => absent (same ▸ mem)
  next disables =>
    have present : usingKey ∈ failed := known.mpr disables
    simp only [mem_cons, or_iff_right_iff_imp]
    exact fun same => same ▸ present

theorem setKey_isMultiKey (info : ChannelInfo) (now : Int) (position : Nat) (status : Int) (reason : String) :
    (info.setKey now position status reason).isMultiKey = info.isMultiKey := by
  unfold ChannelInfo.setKey
  split <;> rfl

variable {copy : Channel}

theorem channelInfo_withStatus (status : Int) (reason : String) (multi : copy.channelInfo.isMultiKey = true)
    (listed : usingKey ∈ copy.getKeys env.jsonArray) : (withStatus env copy usingKey status reason).channelInfo =
      copy.channelInfo.setKey env.now ((copy.getKeys env.jsonArray).idxOf usingKey) status reason := by
  rw [withStatus, if_pos multi, handlerMultiKeyUpdate, if_neg (ne_nil_of_mem listed), keyIndexOf, if_pos listed]
  simp only
  split <;> rfl

theorem marks_noteKey (within : ∀ key ∈ failed, key ∈ keys)
    (listed : usingKey ∈ keys) (idx : Nat) : (∃ key ∈ noteKey keys failed usingKey status, keys.idxOf key = idx) ↔
      if idx = keys.idxOf usingKey then status ≠ channelStatusEnabled else ∃ key ∈ failed, keys.idxOf key = idx := by
  rw [noteKey, if_neg (not_not_intro listed)]
  split
  next enables =>
    simp only [List.mem_filter, decide_eq_true_eq]
    split
    next here =>
      refine iff_of_false ?_ (not_not_intro enables)
      rintro ⟨key, ⟨mem, other⟩, position⟩
      exact other ((idxOf_inj (within key mem)).mp (position.trans here))
    next elsewhere =>
    constructor
    · rintro ⟨key, ⟨mem, _⟩, position⟩
      exact ⟨key, mem, position⟩
    · rintro ⟨key, mem, position⟩
      exact ⟨key, ⟨mem, fun same => elsewhere (same ▸ position.symm)⟩, position⟩
  next disables =>
  simp only [mem_cons]
  split
  next here => exact iff_of_true ⟨usingKey, .inl rfl, here.symm⟩ disables
  next elsewhere =>
  constructor
  · rintro ⟨key, rfl | mem, position⟩
    · exact absurd position.symm elsewhere
    · exact ⟨key, mem, position⟩
  · rintro ⟨key, mem, position⟩
    exact ⟨key, .inr mem, position⟩

theorem within_noteKey (within : ∀ key ∈ failed, key ∈ keys) : ∀ key ∈ noteKey keys failed usingKey status, key ∈ keys := by
  unfold noteKey
  split
  · exact within
  next listed =>
  split
  · exact fun key mem => within key (List.mem_filter.mp mem).1
  intro key mem
  rcases mem_cons.mp mem with rfl | mem
  · exact not_not.mp listed
  · exact within key mem

theorem marked_updateChannelStatus (marked : state.Marked env) {pid : Nat} (held : state.copies pid = some copy)
    {cached : Cached} {reason : String}
    (attributes : (KeyEvent.updateChannelStatus pid cached usingKey status reason).Attributes env state) :
    Keyed.Marked env { state with
      row := reported env cached copy usingKey status reason state.row
      failed := noteKey (state.row.getKeys env.jsonArray) state.failed usingKey status } := by
  obtain ⟨ignored, written⟩ := attributes copy held
  unfold reported
  split
  next stops => exact marked_congr marked marked.multi rfl (fun _ => rfl) (mem_noteKey_same (ignored stops))
  next goes =>
  obtain ⟨⟨multi, statuses⟩, sameKey, listed⟩ := written goes
  have keys : copy.getKeys env.jsonArray = state.row.getKeys env.jsonArray := getKeys_congr _ sameKey
  have info := channelInfo_withStatus status reason multi (keys.symm ▸ listed)
  have saved : ((withStatus env copy usingKey status reason).saveOver state.row).channelInfo =
      copy.channelInfo.setKey env.now ((state.row.getKeys env.jsonArray).idxOf usingKey) status reason := by
    rw [← keys]
    exact info
  refine ⟨?_, within_noteKey marked.within, fun idx => ?_⟩
  · rw [saved, setKey_isMultiKey]
    exact multi
  rw [saved, keyStatus_setKey]
  refine Iff.trans ?_ (marks_noteKey marked.within listed idx).symm
  split
  · exact Iff.rfl
  · rw [statuses, marked.exactly]

variable {edit : KeyEdit} {data : Channel}

theorem updates_recountKeys (several : data.channelInfo.isMultiKey = true) (text : String) (row : Channel) :
    ((recountKeys env text data).updates row).key = editedText data row.key ∧
      ((recountKeys env text data).updates row).channelInfo = (recountKeys env text data).channelInfo := by
  have nonzero : (recountKeys env text data).channelInfo ≠ {} := by
    intro zero
    have flag : (recountKeys env text data).channelInfo.isMultiKey = data.channelInfo.isMultiKey := rfl
    rw [zero, several] at flag
    cases flag
  refine ⟨?_, if_neg nonzero⟩
  unfold editedText Channel.updates Users.given
  by_cases empty : data.key = "" <;> simp [empty, recountKeys]

theorem rewritten_spec (multi : copy.channelInfo.isMultiKey = true)
    (merges : edit.merged env copy = .ok data) (row : Channel) :
    (rewritten env edit copy row.key row).key = editedText data row.key ∧
      (rewritten env edit copy row.key row).channelInfo = (recountKeys env (editedText data row.key) data).channelInfo ∧
      data.channelInfo = edit.info copy := by
  have info := (merged_spec merges).2
  have several : data.channelInfo.isMultiKey = true := by
    rw [info]
    exact multi
  have res : rewritten env edit copy row.key row = (recountKeys env (editedText data row.key) data).updates row := by
    rw [rewritten, merges]
    exact if_pos several
  obtain ⟨key, counted⟩ := updates_recountKeys several (editedText data row.key) row
  rw [res]
  exact ⟨key, counted, info⟩

theorem marked_updateChannel (marked : state.Marked env) {pid : Nat} (held : state.copies pid = some copy)
    {existing : String} (attributes : (KeyEvent.updateChannel pid existing edit).Attributes env state) :
    Keyed.Marked env { state with
      row := rewritten env edit copy existing state.row
      failed := state.failed.filter fun key => key ∈ (rewritten env edit copy existing state.row).getKeys env.jsonArray } := by
  obtain ⟨⟨multi, statuses⟩, rfl, starts⟩ := attributes copy held
  cases merges : edit.merged env copy with
  | error e =>
    have unchanged : rewritten env edit copy state.row.key state.row = state.row := by rw [rewritten, merges]
    rw [unchanged]
    refine marked_congr marked marked.multi rfl (fun _ => rfl) fun key => ?_
    simp only [List.mem_filter, decide_eq_true_eq, and_iff_left_iff_imp]
    exact marked.within key
  | ok data =>
    obtain ⟨key, info, fromCopy⟩ := rewritten_spec multi merges state.row
    obtain ⟨added, longer⟩ := starts data merges
    have keys : (rewritten env edit copy state.row.key state.row).getKeys env.jsonArray =
        state.row.getKeys env.jsonArray ++ added := (getKeys_congr _ key).trans longer.symm
    have stays : ∀ key ∈ state.failed, key ∈ state.row.getKeys env.jsonArray ++ added := fun key mem =>
      mem_append_left _ (marked.within key mem)
    rw [keys, filter_eq_self.mpr fun key mem => decide_eq_true (stays key mem)]
    refine ⟨?_, fun key mem => keys.symm ▸ stays key mem, fun idx => ?_⟩
    · rw [info]
      exact (congrArg ChannelInfo.isMultiKey fromCopy).trans multi
    have sameStatus : data.channelInfo.keyStatus idx = state.row.channelInfo.keyStatus idx := by
      rw [fromCopy]
      exact statuses idx
    -- the positions of the failed keys are those in the list before the edit
    have positions : ∀ key ∈ state.failed, (state.row.getKeys env.jsonArray ++ added).idxOf key =
        (state.row.getKeys env.jsonArray).idxOf key := fun key mem => idxOf_append_of_mem (marked.within key mem)
    have counted : ∀ key ∈ state.failed,
        (state.row.getKeys env.jsonArray).idxOf key < (updateKeys env (editedText data state.row.key)).length := by
      intro key mem
      have longerKeys : Channel.getKeys env.jsonArray { key := editedText data state.row.key } ≠ [] := by
        rw [← longer]
        exact ne_nil_of_mem (stays key mem)
      rw [updateKeys_eq env longerKeys, ← longer, length_append]
      exact Nat.lt_add_right _ (idxOf_lt_length_of_mem (marked.within key mem))
    rw [info, keyStatus_recountKeys, keys]
    constructor
    · intro marks
      split at marks
      · rw [sameStatus] at marks
        obtain ⟨key, mem, position⟩ := (marked.exactly idx).mp marks
        exact ⟨key, mem, (positions key mem).trans position⟩
      · exact absurd rfl marks
    · rintro ⟨key, mem, position⟩
      rw [positions key mem] at position
      subst position
      rw [if_pos (counted key mem), sameStatus]
      exact (marked.exactly _).mpr ⟨key, mem, rfl⟩

theorem marked_step {after : Keyed} {event : KeyEvent} (marked : state.Marked env)
    (attributes : event.Attributes env state) (taken : state.step env event = some after) : after.Marked env := by
  cases event with
  | read pid =>
    cases Option.some.inj taken
    exact ⟨marked.multi, marked.within, marked.exactly⟩
  | updateChannelStatus pid cached usingKey status reason =>
    obtain ⟨copy, held, rfl⟩ := map_eq_some_iff.mp taken
    exact marked_updateChannelStatus marked held attributes
  | getNextEnabledKey pid idx =>
    obtain ⟨copy, held, rfl⟩ := map_eq_some_iff.mp taken
    obtain ⟨multi, statuses⟩ := attributes copy held
    exact marked_congr marked multi rfl statuses fun _ => Iff.rfl
  | updateChannel pid existing edit =>
    obtain ⟨copy, held, rfl⟩ := map_eq_some_iff.mp taken
    exact marked_updateChannel marked held attributes

/-- In every run in which no call writes back states of keys that have changed since it read them, every report names a key
of the list and takes effect, and every edit leaves the keys at their positions: the entries that are not enabled are at
all times exactly those of the keys that have failed and not been enabled since. -/
theorem failed_keys_marked (env : Env) {state : Keyed} (marked : state.Marked env) {events : List KeyEvent}
    (attributed : Guarded (Keyed.step env) (fun state event => event.Attributes env state) state events) :
    Along (Keyed.step env) (Keyed.Marked env) state events :=
  along_of_guarded (fun _ _ _ marked attributes taken => marked_step marked attributes taken) marked attributed

/-- The second of two keys fails. -/
theorem failed_second_key_marked : Along (Keyed.step ⟨fun _ => none, 0⟩) (Keyed.Marked ⟨fun _ => none, 0⟩)
      ⟨{ id := 1, key := "a\nb", status := 1, channelInfo := { isMultiKey := true, multiKeySize := 2 } }, fun _ => none, []⟩
      [.read 0, .updateChannelStatus 0 none "b" channelStatusAutoDisabled "401"] := by
  refine failed_keys_marked ⟨fun _ => none, 0⟩ ⟨rfl, fun _ none => absurd none not_mem_nil, fun idx => ?_⟩
    ⟨trivial, fun state taken => ⟨?_, fun _ _ => trivial⟩⟩
  · refine iff_of_false (fun marks => marks rfl) ?_
    rintro ⟨key, none, _⟩
    exact not_mem_nil none
  · cases Option.some.inj taken
    intro copy held
    cases Option.some.inj held
    refine ⟨fun stops => absurd stops (by decide), fun _ => ⟨⟨rfl, fun _ => rfl⟩, rfl, by decide +kernel⟩⟩

def keyStates (machine : Machine (@Answer schema) (Shared schema) (Except String Unit)) : List (String × List (Nat × Int)) :=
  machine.shared.db.channels.rows.map fun row => (row.key, row.channelInfo.statusList.rows)

/-- A key that is not in the list disables the first one; a caller that polls with an older copy clears the mark of a key
that has failed; and so does an edit that moves the key. -/
theorem key_failures_lost : let env : Env := ⟨fun _ => none, 0⟩
    let ch : Channel := { id := 1, key := "a\nb", status := 1, models := "m", group := "default"
                          channelInfo := { isMultiKey := true, multiKeySize := 2, multiKeyMode := multiKeyModePolling } }
    let report := fun key : String => do
      let _ ← updateChannelStatus env none 1 key channelStatusAutoDisabled "401"
      pure ()
    let poll := do
      let _ ← getNextEnabledKey env none 0 ch
      pure ()
    let replace := updateChannelKeys env { channel := { ch with key := "b" } }
    let start := fun programs : List (Action schema Unit) => launch (Store.mk (Table.empty.save ch) .empty) [] programs
    (∃ machine, Runs.exec (Interleaving.step exec) (start [report "gone"]) [0, 0] = some machine ∧
      keyStates machine = [("a\nb", [(0, channelStatusAutoDisabled)])]) ∧
    (∃ machine, Runs.exec (Interleaving.step exec) (start [poll, report "b"]) [1, 0, 1] = some machine ∧
      keyStates machine = [("a\nb", [(1, channelStatusAutoDisabled)])]) ∧
    (∃ machine, Runs.exec (Interleaving.step exec) (start [poll, report "b"]) [1, 0, 1, 0] = some machine ∧
      keyStates machine = [("a\nb", [])]) ∧
    ∃ machine, Runs.exec (Interleaving.step exec) (start [report "b", replace]) [0, 0, 1, 1] = some machine ∧
      keyStates machine = [("b", [])] :=
  ⟨⟨_, rfl, by decide +kernel⟩, ⟨_, rfl, by decide +kernel⟩, ⟨_, rfl, by decide +kernel⟩, ⟨_, rfl, by decide +kernel⟩⟩

end Tokengine.Channels
