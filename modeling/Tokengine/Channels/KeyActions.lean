import Tokengine.Channels.KeyFailures

/-! Keys that are enabled again, and keys that are deleted. -/

namespace Tokengine.Channels
open Transactions Interleaving List Option Table Runs

variable {env : Env} {db : Store} {ch : Channel}

/-! ### Recovery -/

theorem status_handlerMultiKeyUpdate {now : Int} {usingKey reason : String} (status : Int)
    (disabled : ch.status = channelStatusAutoDisabled) :
    (handlerMultiKeyUpdate env.jsonArray now ch usingKey status reason).status =
      if ch.getKeys env.jsonArray = [] then status else channelStatusAutoDisabled := by
  unfold handlerMultiKeyUpdate
  split
  · rfl
  · dsimp only
    split
    · rfl
    · exact disabled

/-- What an enabled key should bring back: the channel, its abilities, and itself among the keys that are given out. -/
structure Recovered (env : Env) (usingKey : String) (after : Store) (row : Channel) : Prop where
  status : row.status = channelStatusEnabled
  abilities : ∀ ability ∈ after.abilities.rows, ability.channelId = row.id → ability.enabled = true
  usable : (row.getKeys env.jsonArray).idxOf usingKey ∈ row.channelInfo.enabledIndexes (row.getKeys env.jsonArray).length

/-- A channel that was disabled with the last of its keys stays disabled when one of them is enabled, unless it has none.
If the call names one of its keys, all that is brought back is the key. -/
theorem enabled_with_key_iff (env : Env) (db : Store) (cached : Cached) (ch : Channel) (usingKey reason : String)
    (stored : db.channels.lookup ch.id = some ch) (several : ch.channelInfo.isMultiKey = true)
    (disabled : ch.status = channelStatusAutoDisabled) :
    ∃ after row, step env db (.updateChannelStatus cached ch.id usingKey channelStatusEnabled reason) = some after ∧
      after.channels.lookup ch.id = some row ∧
      (row.status = channelStatusEnabled ↔ cached.stops channelStatusEnabled = false ∧ ch.getKeys env.jsonArray = []) ∧
      (usingKey ∈ ch.getKeys env.jsonArray → ¬Recovered env usingKey after row ∧ after.abilities = db.abilities ∧
        (cached.stops channelStatusEnabled = false → (row.getKeys env.jsonArray).idxOf usingKey ∈
          row.channelInfo.enabledIndexes (row.getKeys env.jsonArray).length)) := by
  let changed := withStatus env ch usingKey channelStatusEnabled reason
  have apart : ¬ch.status = channelStatusEnabled := by rw [disabled]; decide
  have saved := @lookup_statusWrites env db ch ch stored usingKey channelStatusEnabled reason
  have status : changed.status = if ch.getKeys env.jsonArray = [] then channelStatusEnabled else channelStatusAutoDisabled := by
    unfold changed withStatus
    rw [if_pos several]
    exact status_handlerMultiKeyUpdate channelStatusEnabled disabled
  cases served : cached.stops channelStatusEnabled with
  | true =>
    refine ⟨_, ch, step_eq trivial, ?_, iff_of_false apart (by simp), fun _ => ⟨fun back => apart back.status, ?_, nofun⟩⟩
    · simp only [Op.writes, updateStatusWrites, served, if_true]
      exact stored
    · simp only [Op.writes, updateStatusWrites, served, if_true]
      rfl
  | false =>
    have writes : Op.writes env db (.updateChannelStatus cached ch.id usingKey channelStatusEnabled reason) =
        statusWrites env ch usingKey channelStatusEnabled reason := by
      simp only [Op.writes, updateStatusWrites, served, stored, apart, if_false, Bool.false_eq_true]
    refine ⟨_, changed.saveOver ch, step_eq trivial, writes ▸ saved, ?_, fun listed => ?_⟩
    · change changed.status = _ ↔ _
      rw [status]
      split
      next none => exact iff_of_true rfl ⟨rfl, none⟩
      next keys => exact iff_of_false (by decide) fun both => keys both.2
    rw [if_neg (ne_nil_of_mem listed)] at status
    have unchanged : shouldUpdateAbilities env ch usingKey channelStatusEnabled reason = false := by
      simp [shouldUpdateAbilities, several, disabled, status, changed]
    refine ⟨fun back => ?_, ?_, fun _ => ?_⟩
    · have enabled : changed.status = channelStatusEnabled := back.status
      rw [status] at enabled
      exact absurd enabled (by decide)
    · rw [writes, statusWrites, unchanged]
      rfl
    · have sameKeys : (changed.saveOver ch).getKeys env.jsonArray = ch.getKeys env.jsonArray := getKeys_congr _ rfl
      have info : (changed.saveOver ch).channelInfo = _ := channelInfo_withStatus channelStatusEnabled reason several listed
      rw [sameKeys, info, ChannelInfo.enabledIndexes, List.mem_filter, mem_range, keyStatus_setKey, if_pos rfl]
      exact ⟨idxOf_lt_length_of_mem listed, decide_eq_true rfl⟩

def twoKeys (second : Int) : Channel where
  id := 1
  key := "a\nb"
  status := channelStatusAutoDisabled
  channelInfo := { isMultiKey := true, multiKeySize := 2, multiKeyStatusList := some ((Table.empty.save (0, 3)).save (1, second)) }

def plainEnv : Env := ⟨fun _ => none, 0⟩

def twoKeysStore (second : Int) : Store := ⟨Table.empty.save (twoKeys second), .empty⟩

theorem two_keys_status :
    ∃ after row, step plainEnv (twoKeysStore 3) (.updateChannelStatus none 1 "a" channelStatusEnabled "") = some after ∧
      after.channels.lookup 1 = some row ∧ (row.status = channelStatusEnabled ↔
        Cached.stops channelStatusEnabled none = false ∧ (twoKeys 3).getKeys plainEnv.jsonArray = []) ∧
      ("a" ∈ (twoKeys 3).getKeys plainEnv.jsonArray → ¬Recovered plainEnv "a" after row ∧
        after.abilities = (twoKeysStore 3).abilities ∧ (Cached.stops channelStatusEnabled none = false →
          (row.getKeys plainEnv.jsonArray).idxOf "a" ∈
            row.channelInfo.enabledIndexes (row.getKeys plainEnv.jsonArray).length)) :=
  enabled_with_key_iff plainEnv (twoKeysStore 3) none (twoKeys 3) "a" "" (by decide +kernel) rfl rfl

/-- The first of two disabled keys is enabled; the channel is not. -/
theorem two_keys_stay_disabled :
    ∃ after, step plainEnv (twoKeysStore 3) (.updateChannelStatus none 1 "a" channelStatusEnabled "") = some after ∧
      (after.channels.lookup 1).map (fun row => (row.status, row.channelInfo.keyStatus 0)) =
        some (channelStatusAutoDisabled, channelStatusEnabled) :=
  exists_end (by decide +kernel)

/-! ### Deletion -/

inductive KeyAction
  | deleteKey (keyIndex : Int)
  | deleteDisabledKeys

def KeyAction.keeps (info : ChannelInfo) : KeyAction → Nat → Bool
  | .deleteKey keyIndex, idx => (idx : Int) ≠ keyIndex
  | .deleteDisabledKeys, idx => info.keyStatus idx ≠ channelStatusAutoDisabled

/-- The old indexes of the keys that remain. -/
def KeyAction.kept (env : Env) (action : KeyAction) (ch : Channel) : List Nat :=
  (range (ch.getKeys env.jsonArray).length).filter (action.keeps ch.channelInfo)

def KeyAction.remainingKeys (env : Env) (action : KeyAction) (ch : Channel) : List String :=
  (action.kept env ch).map fun idx => (ch.getKeys env.jsonArray).getD idx ""

/-- Whether the time and the reason of a key that remains are carried over. -/
def KeyAction.dates (info : ChannelInfo) : KeyAction → Nat → Bool
  | .deleteKey _, _ => true
  | .deleteDisabledKeys, idx => info.keyStatus idx ≠ channelStatusEnabled

def KeyAction.refusal (env : Env) (ch : Channel) (action : KeyAction) : Option String :=
  match action with
  | .deleteKey keyIndex =>
    if keyIndex < 0 ∨ ch.channelInfo.multiKeySize ≤ keyIndex then some "密钥索引超出范围"
    else if action.remainingKeys env ch = [] then some "不能删除最后一个密钥"
    else none
  | .deleteDisabledKeys =>
    if (action.kept env ch).length = (ch.getKeys env.jsonArray).length then some "没有需要删除的自动禁用密钥" else none

/-- The entries of the keys that remain, under their new indexes. -/
def reindexed {α : Type} (entry : Nat → Option α) : Nat → List Nat → IndexMap α
  | _, [] => .empty
  | newIndex, idx :: rest =>
    match entry idx with
    | some val => (reindexed entry (newIndex + 1) rest).save (newIndex, val)
    | none => reindexed entry (newIndex + 1) rest

def entryOf {α : Type} (map : Option (IndexMap α)) (idx : Nat) : Option α := ((map.getD .empty).lookup idx).map Prod.snd

/-- A status that is carried over: an entry that says enabled is dropped. -/
def keptStatus (info : ChannelInfo) (idx : Nat) : Option Int :=
  (entryOf info.multiKeyStatusList idx).filter (· ≠ channelStatusEnabled)

def KeyAction.info (env : Env) (action : KeyAction) (ch : Channel) : ChannelInfo :=
  let info := ch.channelInfo
  let kept := action.kept env ch
  { info with
    multiKeySize := kept.length
    multiKeyStatusList := some (reindexed (keptStatus info) 0 kept)
    multiKeyDisabledTime := some (reindexed (fun idx =>
      if action.dates info idx then entryOf info.multiKeyDisabledTime idx else none) 0 kept)
    multiKeyDisabledReason := some (reindexed (fun idx =>
      if action.dates info idx then entryOf info.multiKeyDisabledReason idx else none) 0 kept) }

/-- The struct that `ManageMultiKeys` gives to `Channel.Update`. -/
def KeyAction.data (env : Env) (action : KeyAction) (ch : Channel) : Channel :=
  { ch with key := "\n".intercalate (action.remainingKeys env ch), channelInfo := action.info env ch }

/-- `ManageMultiKeys`, up to the rebuilding of the cache. -/
def manageMultiKeys (env : Env) (channelId : Int) (action : KeyAction) : Action schema Unit := do
  let found ← attempt (find .global (.channel channelId))
  match found.toOption.bind id with
  | none => throw "渠道不存在"
  | some ch =>
    if ch.channelInfo.isMultiKey then
      match action.refusal env ch with
      | some message => throw message
      | none => update env (action.data env ch)
    else throw "该渠道不是多密钥模式"

theorem lookup_reindexed {α : Type} (entry : Nat → Option α) (first idx : Nat) (kept : List Nat) :
    (reindexed entry first kept).lookup idx =
      if idx < first then none else (kept[idx - first]?.bind entry).map fun val => (idx, val) := by
  induction kept generalizing first with
  | nil => simp [reindexed, Table.empty, Table.lookup]
  | cons old rest tail =>
    rcases Nat.lt_trichotomy idx first with below | rfl | above
    · have later : idx < first + 1 := by omega
      rw [if_pos below, reindexed]
      split
      · rw [lookup_save_of_ne (Nat.ne_of_lt below), tail, if_pos later]
      · rw [tail, if_pos later]
    · rw [if_neg (Nat.lt_irrefl idx), Nat.sub_self, reindexed]
      split
      next val found => simp [found]
      next missing => simp [tail, missing]
    · have later : ¬idx < first + 1 := by omega
      have shift : idx - first = idx - (first + 1) + 1 := by omega
      rw [if_neg (Nat.lt_asymm above), shift, getElem?_cons_succ, reindexed]
      split
      · rw [lookup_save_of_ne (Nat.ne_of_gt above), tail, if_neg later]
      · rw [tail, if_neg later]

theorem keyStatus_kept {action : KeyAction} {position idx : Nat} (at_ : (action.kept env ch)[position]? = some idx) :
    (action.info env ch).keyStatus position = ch.channelInfo.keyStatus idx := by
  have listed : (action.info env ch).statusList.lookup position = _ :=
    lookup_reindexed (keptStatus ch.channelInfo) 0 position (action.kept env ch)
  rw [ChannelInfo.keyStatus, listed, if_neg (Nat.not_lt_zero position), Nat.sub_zero, at_]
  change (((keptStatus ch.channelInfo idx).map _).map Prod.snd).getD _ =
    (entryOf ch.channelInfo.multiKeyStatusList idx).getD channelStatusEnabled
  rw [keptStatus]
  cases entryOf ch.channelInfo.multiKeyStatusList idx with
  | none => rfl
  | some status => by_cases enabled : status = channelStatusEnabled <;> simp [Option.filter, enabled]

/-- The row has exactly the keys that remain, each with its status. -/
structure KeyAction.Deleted (env : Env) (action : KeyAction) (ch row : Channel) : Prop where
  keys : row.getKeys env.jsonArray = action.remainingKeys env ch
  size : row.channelInfo.multiKeySize = (action.remainingKeys env ch).length
  statuses : ∀ position idx, (action.kept env ch)[position]? = some idx →
    row.channelInfo.keyStatus position = ch.channelInfo.keyStatus idx

section

variable {action : KeyAction} {row : Channel}

theorem deleted_iff (deletes : (action.kept env ch).length < (ch.getKeys env.jsonArray).length)
    (key : row.key = editedText (action.data env ch) ch.key) (info : row.channelInfo =
      (recountKeys env (editedText (action.data env ch) ch.key) (action.data env ch)).channelInfo) :
    action.Deleted env ch row ↔ action.remainingKeys env ch ≠ [] ∧
      (action.data env ch).getKeys env.jsonArray = action.remainingKeys env ch := by
  constructor
  · intro deleted
    have filled : (action.data env ch).key ≠ "" := by
      intro empty
      rw [editedText, if_neg (not_not_intro empty)] at key
      have length := congrArg length ((getKeys_congr env.jsonArray key).symm.trans deleted.keys)
      rw [KeyAction.remainingKeys, length_map] at length
      omega
    rw [editedText, if_pos filled] at key
    refine ⟨fun none => filled ?_, (getKeys_congr env.jsonArray key).symm.trans deleted.keys⟩
    rw [KeyAction.data, none]
    rfl
  · rintro ⟨some, again⟩
    have filled : (action.data env ch).key ≠ "" := by
      intro empty
      rw [Channel.getKeys, if_pos empty] at again
      exact some again.symm
    rw [editedText, if_pos filled] at key info
    have counted : updateKeys env (action.data env ch).key = action.remainingKeys env ch :=
      (updateKeys_eq env (again ▸ some)).trans again
    refine ⟨(getKeys_congr env.jsonArray key).trans again, ?_, fun position idx at_ => ?_⟩
    · rw [info, ← counted]
      rfl
    · obtain ⟨inside, -⟩ := List.getElem?_eq_some_iff.mp at_
      rw [info, keyStatus_recountKeys, counted, KeyAction.remainingKeys, length_map, if_pos inside]
      exact keyStatus_kept at_

end

/-- A deletion leaves exactly the keys that remain if there are any and `GetKeys` finds them in their joined text. -/
theorem key_deletion_iff (env : Env) (db : Store) (action : KeyAction) (ch : Channel)
    (stored : db.channels.lookup ch.id = some ch) (named : ch.id ≠ 0)
    (several : ch.channelInfo.isMultiKey = true) (accepted : action.refusal env ch = none)
    (deletes : (action.kept env ch).length < (ch.getKeys env.jsonArray).length) :
    ∃ res shared row, Script.alone exec 0 (manageMultiKeys env ch.id action) (quiet db) = some (res, shared) ∧
      shared.db.channels.lookup ch.id = some row ∧ (action.Deleted env ch row ↔ action.remainingKeys env ch ≠ [] ∧
        (action.data env ch).getKeys env.jsonArray = action.remainingKeys env ch) := by
  have edits : editedChannel env db (action.data env ch) =
      recountKeys env (editedText (action.data env ch) ch.key) (action.data env ch) := by
    have found : db.channels.lookup (action.data env ch).id = some ch := stored
    rw [editedChannel, found]
    exact if_pos several
  obtain ⟨res, completes⟩ := completes_storeEdited (editedChannel env db (action.data env ch)) db
  have runs : Completes (fun _ => True) ⟨db, []⟩ (manageMultiKeys env ch.id action)
      ⟨performed (storeWrites db (editedChannel env db (action.data env ch))) db, []⟩ res := by
    refine completes_find_attempt ?_
    simp only [answer, Local.view, stored, Except.toOption, bind_some, id, several, accepted, if_true]
    exact completes_bind (completes_edited env _ db) completes
  obtain ⟨shared, ran, ended⟩ := completes_alone runs 0
  obtain ⟨key, info⟩ := @updates_recountKeys env (action.data env ch) several _ ch
  rw [edits] at ended
  exact ⟨res, shared, _, ran, ended ▸ lookup_storeWrites stored named, deleted_iff deletes key info⟩

theorem first_of_two_deleted : ∃ res shared row,
      Script.alone exec 0 (manageMultiKeys plainEnv 1 .deleteDisabledKeys) (quiet (twoKeysStore 2)) = some (res, shared) ∧
      shared.db.channels.lookup 1 = some row ∧ (KeyAction.Deleted plainEnv .deleteDisabledKeys (twoKeys 2) row ↔
        KeyAction.remainingKeys plainEnv .deleteDisabledKeys (twoKeys 2) ≠ [] ∧
        (KeyAction.data plainEnv .deleteDisabledKeys (twoKeys 2)).getKeys plainEnv.jsonArray =
          KeyAction.remainingKeys plainEnv .deleteDisabledKeys (twoKeys 2)) :=
  key_deletion_iff plainEnv (twoKeysStore 2) .deleteDisabledKeys (twoKeys 2) (by decide +kernel) (by decide) rfl
    (by decide +kernel) (by decide +kernel)

/-- Both keys are disabled automatically. Their deletion keeps them and enables them. -/
theorem disabled_keys_come_back :
    ∃ ended, Script.alone exec 0 (manageMultiKeys plainEnv 1 .deleteDisabledKeys) (quiet (twoKeysStore 3)) = some ended ∧
      ended.1 = .ok () ∧ (ended.2.db.channels.lookup 1).map (fun row =>
        (row.getKeys plainEnv.jsonArray, row.channelInfo.keyStatus 0, row.channelInfo.keyStatus 1)) =
          some (["a", "b"], channelStatusEnabled, channelStatusEnabled) :=
  exists_end (by decide +kernel)

end Tokengine.Channels
