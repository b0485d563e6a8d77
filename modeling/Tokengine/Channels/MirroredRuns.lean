import Tokengine.Channels.Operations

/-! Sequences of operations on channels, and the conditions under which the abilities stay an exact copy. -/

namespace Tokengine.Channels
open Runs Option
open Users (given)

def Channel.KeysExhausted (env : Env) (ch : Channel) (usingKey : String) : Prop :=
  ch.channelInfo.isMultiKey = true ∧ ch.getKeys env.jsonArray ≠ [] ∧
    ch.channelInfo.multiKeySize ≤
      (ch.channelInfo.statusList.delete (keyIndexOf (ch.getKeys env.jsonArray) usingKey)).rows.length

def Op.Safe (env : Env) (db : Store) : Op → Prop
  | .batchInsertChannels channels => ∀ ch ∈ channels, (created ch).Unambiguous
  | .insert ch => (created ch).Unambiguous
  | .update ch => ch.id ≠ 0 →
    (∀ row, db.channels.lookup ch.id = some row → (ch.updates row).Unambiguous) ∧
      (db.channels.lookup ch.id = none → ch.pairs = [])
  | .delete _ | .batchDeleteChannels _ | .enableChannelByTag _ | .disableChannelByTag _ => True
  | .deleteChannelByStatus status => ∀ ch ∈ db.channels.rows, ch.status = status → ch.pairs = []
  | .deleteDisabledChannel => ∀ ch ∈ db.channels.rows,
    ch.status = channelStatusAutoDisabled ∨ ch.status = channelStatusManuallyDisabled → ch.pairs = []
  | .updateChannelStatus cached channelId usingKey status _ =>
    cached.stops status = false → status = channelStatusEnabled → ∀ row, db.channels.lookup channelId = some row →
      row.status ≠ channelStatusEnabled → row.status ≠ channelStatusAutoDisabled → row.KeysExhausted env usingKey → row.pairs = []
  | .editChannelByTag tag edit =>
    (edit.shouldReCreateAbilities = true → ∀ ch ∈ db.channels.rows,
      (edit.revise tag ch).tag = some (edit.newTag.getD tag) → (edit.revise tag ch).Unambiguous) ∧
    (edit.shouldReCreateAbilities = false → edit.weight = some 0 → ∀ ch ∈ db.channels.rows, ch.tag = some tag →
      ch.pairs = [] ∨ ch.getWeight = 0)
  | .batchSetChannelTag ids tag => ∀ ch ∈ db.channels.rows, ch.id ∈ ids →
    ch.pairs = [] ∨ ch.tag = tag ∧ ch.Unambiguous
  | .fixAbility => ∀ ch ∈ db.channels.rows, ch.Unambiguous

theorem unambiguous_congr {first second : Channel} (pairs : first.pairs = second.pairs) :
    first.Unambiguous ↔ second.Unambiguous := by
  rw [Channel.Unambiguous, Channel.Unambiguous, pairs]

variable (env : Env)

theorem editedChannel_fields (db : Store) (ch : Channel) :
    (editedChannel env db ch).id = ch.id ∧ (editedChannel env db ch).models = ch.models ∧
      (editedChannel env db ch).group = ch.group := by
  unfold editedChannel
  split <;> exact ⟨rfl, rfl, rfl⟩

variable {db : Store}

theorem mirrored_editedChannel_iff (mirrored : Mirrored db) (ch : Channel) :
    Mirrored (performed (storeWrites db (editedChannel env db ch)) db) ↔ (Op.update ch).Safe env db := by
  obtain ⟨id, models, group⟩ := editedChannel_fields env db ch
  unfold storeWrites Op.Safe
  rw [id]
  split
  next zero => exact iff_of_true mirrored fun given => absurd zero given
  next given =>
  cases found : db.channels.lookup ch.id with
  | none =>
    rw [mirrored_update_missing_iff mirrored (id ▸ found), pairs_congr models group]
    constructor
    · intro none _
      exact ⟨fun row same => absurd (same.symm.trans found) (some_ne_none row), fun _ => none⟩
    · exact fun safe => (safe given).2 found
  | some row =>
    have pairs : ((editedChannel env db ch).updates row).pairs = (ch.updates row).pairs :=
      pairs_congr (by simp only [Channel.updates, models]) (by simp only [Channel.updates, group])
    rw [mirrored_update_iff mirrored (id ▸ found), unambiguous_congr pairs]
    constructor
    · intro unambiguous _
      refine ⟨fun other same => ?_, fun none => absurd (found.symm.trans none) (some_ne_none row)⟩
      cases found.symm.trans same
      exact unambiguous
    · exact fun safe => (safe given).1 row found

variable {ch : Channel} {usingKey : String} {status : Int}

theorem withStatus_exhausted {env : Env} (reason : String) (exhausted : ch.KeysExhausted env usingKey) :
    (withStatus env ch usingKey channelStatusEnabled reason).status = channelStatusAutoDisabled := by
  obtain ⟨multi, keys, full⟩ := exhausted
  rw [withStatus, if_pos multi, handlerMultiKeyUpdate, if_neg keys]
  exact congrArg Channel.status (if_pos full)

/-- In all other cases the new status is the one asked for, or the old one, or all keys are now disabled. -/
theorem withStatus_otherwise {env : Env} (reason : String)
    (otherwise : ¬(status = channelStatusEnabled ∧ ch.KeysExhausted env usingKey)) :
    (withStatus env ch usingKey status reason).status = status ∨
      ch.channelInfo.isMultiKey = true ∧ (withStatus env ch usingKey status reason).status = ch.status ∨
      status ≠ channelStatusEnabled ∧
        (withStatus env ch usingKey status reason).status = channelStatusAutoDisabled := by
  unfold withStatus handlerMultiKeyUpdate
  split
  next multi =>
    split
    · exact .inl rfl
    next keys =>
    simp only
    split
    next full =>
      refine .inr (.inr ⟨fun enables => otherwise ⟨enables, multi, keys, ?_⟩, rfl⟩)
      rw [ChannelInfo.setKey, if_pos enables] at full
      exact full
    · exact .inr (.inl ⟨multi, rfl⟩)
  · exact .inl rfl

theorem shouldUpdateAbilities_iff {env : Env} {reason : String} :
    shouldUpdateAbilities env ch usingKey status reason = true ↔
      (ch.channelInfo.isMultiKey = true → (withStatus env ch usingKey status reason).status ≠ ch.status) := by
  cases multi : ch.channelInfo.isMultiKey <;> simp [shouldUpdateAbilities, multi]

/-- The state that the rows are given is that of the channel, unless a key is enabled in vain. -/
theorem withStatus_enabled_iff {env : Env} {reason : String}
    (follows : shouldUpdateAbilities env ch usingKey status reason = true) : decide (status = channelStatusEnabled) =
        decide ((withStatus env ch usingKey status reason).status = channelStatusEnabled) ↔
      ¬(status = channelStatusEnabled ∧ ch.KeysExhausted env usingKey) := by
  constructor
  · rintro same ⟨rfl, exhausted⟩
    rw [withStatus_exhausted reason exhausted] at same
    exact absurd same (by decide)
  · intro otherwise
    rcases withStatus_otherwise reason otherwise with asked | ⟨multi, old⟩ | ⟨disables, auto⟩
    · rw [asked]
    · exact absurd old (shouldUpdateAbilities_iff.mp follows multi)
    · rw [auto, decide_eq_false disables]
      rfl

theorem mirrored_statusWrites_iff (mirrored : Mirrored db) (mem : ch ∈ db.channels.rows) (usingKey : String)
    (status : Int) (reason : String) : Mirrored (performed (statusWrites env ch usingKey status reason) db) ↔
      (status = channelStatusEnabled → ch.status ≠ channelStatusAutoDisabled → ch.KeysExhausted env usingKey →
        ch.pairs = []) := by
  have same := sameRows_withStatus env ch usingKey status reason
  rw [statusWrites]
  by_cases follows : shouldUpdateAbilities env ch usingKey status reason = true
  · rw [if_pos follows, mirrored_saveStatus_iff mirrored same mem, withStatus_enabled_iff follows]
    constructor
    · rintro (none | otherwise) enables _ exhausted
      · exact none
      · exact absurd ⟨enables, exhausted⟩ otherwise
    · intro safe
      by_cases vain : status = channelStatusEnabled ∧ ch.KeysExhausted env usingKey
      · obtain ⟨rfl, exhausted⟩ := vain
        have changes := shouldUpdateAbilities_iff.mp follows exhausted.1
        rw [withStatus_exhausted reason exhausted] at changes
        exact .inl (safe rfl changes.symm exhausted)
      · exact .inr vain
  · rw [if_neg follows]
    have unchanged : (withStatus env ch usingKey status reason).status = ch.status := by
      by_contra changes
      exact follows (shouldUpdateAbilities_iff.mpr fun _ => changes)
    refine iff_of_true (mirrored_saveChannel mirrored same unchanged mem) ?_
    rintro rfl notAuto exhausted
    rw [withStatus_exhausted reason exhausted] at unchanged
    exact absurd unchanged.symm notAuto

theorem mirrored_updateChannelStatus_iff (mirrored : Mirrored db) (cached : Cached) (channelId : Int) (usingKey : String)
    (status : Int) (reason : String) :
    Mirrored (performed (updateStatusWrites env db cached channelId usingKey status reason) db) ↔
      (Op.updateChannelStatus cached channelId usingKey status reason).Safe env db := by
  unfold updateStatusWrites Op.Safe
  by_cases stops : cached.stops status = true
  · rw [if_pos stops]
    exact iff_of_true mirrored fun proceeds => absurd (stops.symm.trans proceeds) (by decide)
  rw [if_neg stops]
  cases found : db.channels.lookup channelId with
  | none => exact iff_of_true mirrored fun _ _ row same => absurd (same.symm.trans found) (some_ne_none row)
  | some ch =>
    simp only
    by_cases already : ch.status = status
    · rw [if_pos already]
      refine iff_of_true mirrored fun _ enables row same changes => ?_
      cases found.symm.trans same
      exact absurd (already.trans enables) changes
    · rw [if_neg already, mirrored_statusWrites_iff env mirrored (Table.lookup_some found).1]
      constructor
      · intro safe _ enables row same _ notAuto exhausted
        cases found.symm.trans same
        exact safe enables notAuto exhausted
      · intro safe enables notAuto exhausted
        exact safe (by simpa using stops) enables ch found (enables ▸ already) notAuto exhausted

theorem mirrored_delete (mirrored : Mirrored db) (channelId : Int) :
    Mirrored (performed (if channelId = 0 then [] else deleteWrites [channelId]) db) := by
  split
  · exact mirrored
  · exact mirrored_deleteChannels mirrored [channelId]

theorem mirrored_editChannelByTag_iff (mirrored : Mirrored db) (tag : String) (edit : TagEdit) :
    Mirrored (performed ((Op.editChannelByTag tag edit).writes env db) db) ↔ (Op.editChannelByTag tag edit).Safe env db := by
  rw [Op.writes, Op.Safe]
  by_cases recreates : edit.shouldReCreateAbilities = true
  · rw [if_pos recreates, mirrored_recreate_iff mirrored tag edit]
    exact ⟨fun safe => ⟨fun _ => safe, fun not => absurd (recreates.symm.trans not) (by decide)⟩, fun safe => safe.1 recreates⟩
  · have keeps : edit.shouldReCreateAbilities = false := by simpa using recreates
    rw [if_neg recreates, mirrored_editInPlace_iff mirrored keeps]
    exact ⟨fun safe => ⟨fun does => absurd does recreates, fun _ => safe⟩, fun safe => safe.2 keeps⟩

theorem mirrored_step_iff {after : Store} (mirrored : Mirrored db) {op : Op} (fresh : op.Fresh db)
    (taken : step env db op = some after) : Mirrored after ↔ op.Safe env db := by
  cases Option.some.inj ((step_eq fresh).symm.trans taken)
  cases op with
  | batchInsertChannels channels => exact mirrored_batchInsertChannels_iff mirrored fresh.1 fresh.2
  | insert ch => exact mirrored_insert_iff mirrored fresh
  | update ch => exact mirrored_editedChannel_iff env mirrored ch
  | delete channelId => exact iff_of_true (mirrored_delete mirrored channelId) trivial
  | batchDeleteChannels ids => exact iff_of_true (mirrored_batchDeleteChannels mirrored (chunk 200 ids)) trivial
  | deleteChannelByStatus status =>
    refine (mirrored_deleteByStatus_iff mirrored [status]).trans ?_
    simp [Op.Safe]
  | deleteDisabledChannel =>
    refine (mirrored_deleteByStatus_iff mirrored [channelStatusAutoDisabled, channelStatusManuallyDisabled]).trans ?_
    simp [Op.Safe]
  | updateChannelStatus cached channelId usingKey status reason =>
    exact mirrored_updateChannelStatus_iff env mirrored cached channelId usingKey status reason
  | enableChannelByTag tag => exact iff_of_true (mirrored_statusByTag mirrored tag channelStatusEnabled) trivial
  | disableChannelByTag tag => exact iff_of_true (mirrored_statusByTag mirrored tag channelStatusManuallyDisabled) trivial
  | editChannelByTag tag edit => exact mirrored_editChannelByTag_iff env mirrored tag edit
  | batchSetChannelTag ids tag => exact mirrored_batchSetChannelTag_iff mirrored ids tag
  | fixAbility => exact mirrored_fixAbility_iff db

/-- From every store whose abilities mirror its channels: they do so all along a sequence of operations exactly when each
operation meets its condition. -/
theorem abilities_mirror_channels_iff (env : Env) {db : Store} (mirrored : Mirrored db) (ops : List Op) :
    Guarded (step env) (fun db op => op.Fresh db → op.Safe env db) db ops ↔ Along (step env) Mirrored db ops := by
  refine @guarded_iff_along _ _ Mirrored (step env) _ _ (fun _ => True) (fun _ _ _ _ _ => trivial) ?_ ?_ trivial mirrored ops
  · intro db op after _ mirrored taken
    have fresh : op.Fresh db := by
      by_contra used
      rw [step, if_neg used] at taken
      cases taken
    rw [mirrored_step_iff env mirrored fresh taken]
    exact ⟨fun safe => safe fresh, fun safe _ => safe⟩
  · intro db op stuck fresh
    rw [step_eq fresh] at stuck
    cases stuck

/-- A store of one channel, with two models in two groups, that is disabled and deleted. -/
theorem abilities_mirror_one_channel : Along (step ⟨fun _ => none, 0⟩) Mirrored Store.empty
      [.insert { id := 1, models := "a,b", group := "default,vip" }, .updateChannelStatus none 1 "" channelStatusManuallyDisabled "",
        .delete 1] :=
  (abilities_mirror_channels_iff ⟨fun _ => none, 0⟩ mirrored_empty _).mp
    ⟨fun _ => by unfold Op.Safe Channel.Unambiguous; decide +kernel, fun _ _ =>
      ⟨fun _ _ enables => absurd enables (by decide), fun _ _ => ⟨fun _ => trivial, fun _ _ => trivial⟩⟩⟩

/-- A new tag is not copied, a channel that is deleted by its status leaves its ability behind, and a weight of zero is not
copied. -/
theorem abilities_left_behind : let env : Env := ⟨fun _ => none, 0⟩
    let ch : Channel := { id := 1, models := "m", group := "default", tag := some "t", weight := some 5 }
    (∃ db, exec (step env) Store.empty [.insert ch, .batchSetChannelTag [1] (some "x")] = some db ∧
      db.channels.rows.map Channel.tag = [some "x"] ∧ db.abilities.rows.map Ability.tag = [some "t"]) ∧
    (∃ db, exec (step env) Store.empty [.insert ch, .disableChannelByTag "t", .deleteDisabledChannel] = some db ∧
      db.channels.rows = [] ∧ db.abilities.rows.map Ability.key = [("default", "m", 1)]) ∧
    ∃ db, exec (step env) Store.empty [.insert ch, .editChannelByTag "t" { weight := some 0 }] = some db ∧
      db.channels.rows.map Channel.getWeight = [0] ∧ db.abilities.rows.map Ability.weight = [5] :=
  ⟨⟨_, rfl, by decide +kernel⟩, ⟨_, rfl, by decide +kernel⟩, ⟨_, rfl, by decide +kernel⟩⟩

end Tokengine.Channels
