import Tokengine.Channels.Mirror

/-! The operations on channels, and when each of them leaves the abilities an exact copy. -/

namespace Tokengine.Channels
open Transactions Interleaving List Option Table
open Users (given)

def Op.Fresh (db : Store) : Op → Prop
  | .batchInsertChannels channels => (channels.map Channel.id).Nodup ∧ ∀ row ∈ db.channels.rows, row.id ∉ channels.map Channel.id
  | .insert ch => ∀ row ∈ db.channels.rows, row.id ≠ ch.id
  | _ => True

instance (db : Store) (op : Op) : Decidable (op.Fresh db) :=
  match op with
  | .batchInsertChannels channels =>
    @instDecidableAnd _ _ (nodupDecidable (channels.map Channel.id))
      (decidableBAll (fun row => row.id ∉ channels.map Channel.id) db.channels.rows)
  | .insert ch => decidableBAll (fun row : Channel => row.id ≠ ch.id) db.channels.rows
  | .update _ | .delete _ | .batchDeleteChannels _ | .deleteChannelByStatus _ | .deleteDisabledChannel
  | .updateChannelStatus .. | .enableChannelByTag _ | .disableChannelByTag _ | .editChannelByTag .. | .batchSetChannelTag ..
  | .fixAbility => isTrue trivial

def step (env : Env) (db : Store) (op : Op) : Option Store :=
  if op.Fresh db then (Script.alone exec 0 (op.script env) (quiet db)).map fun ended => ended.2.db else none

variable {db : Store}

theorem step_eq {env : Env} {op : Op} (fresh : op.Fresh db) : step env db op = some (performed (op.writes env db) db) := by
  obtain ⟨res, completes⟩ := completes_op env op db
  obtain ⟨last, ran, ended⟩ := completes_alone completes 0
  rw [step, if_pos fresh, ran, map_some, ended]

theorem unused_of_mirrored {ids : List Int} (mirrored : Mirrored db)
    (new : ∀ ch ∈ db.channels.rows, ch.id ∉ ids) : Unused db ids := by
  refine ⟨new, fun row stored => ?_⟩
  obtain ⟨ch, mem, within⟩ := (mirrored row).mp stored
  rw [channelId_of_span within]
  exact new ch mem

theorem mirrored_insertWrites_iff (mirrored : Mirrored db) {pieces : List (List Channel)}
    (distinct : (pieces.flatten.map Channel.id).Nodup)
    (new : ∀ row ∈ db.channels.rows, row.id ∉ pieces.flatten.map Channel.id) :
    Mirrored (performed (pieces.flatMap insertWrites) db) ↔ ∀ ch ∈ pieces.flatten, (created ch).Unambiguous := by
  have inserted := inserted_pieces distinct (unused_of_mirrored mirrored new)
  rw [mirrored_inserted_iff mirrored inserted (by rw [map_created_id]; exact distinct) (by rw [map_created_id]; exact new)]
  exact forall_mem_map

theorem mirrored_batchInsertChannels_iff (mirrored : Mirrored db) {channels : List Channel}
    (distinct : (channels.map Channel.id).Nodup) (new : ∀ row ∈ db.channels.rows, row.id ∉ channels.map Channel.id) :
    Mirrored (performed ((chunk 50 channels).flatMap insertWrites) db) ↔ ∀ ch ∈ channels, (created ch).Unambiguous := by
  have pieces : (chunk 50 channels).flatten = channels := flatten_chunk (by decide) channels
  rw [mirrored_insertWrites_iff mirrored (by rw [pieces]; exact distinct) (by rw [pieces]; exact new), pieces]

variable {ch revised : Channel} {change : Ability → Ability}

theorem mirrored_insert_iff (mirrored : Mirrored db) (new : ∀ row ∈ db.channels.rows, row.id ≠ ch.id) :
    Mirrored (performed (.createChannels [created ch] :: addWrites (created ch)) db) ↔ (created ch).Unambiguous := by
  have single : .createChannels [created ch] :: addWrites (created ch) = [[ch]].flatMap insertWrites := by
    simp [insertWrites]
  rw [single, mirrored_insertWrites_iff mirrored (by simp) (by simpa using new)]
  simp

theorem abilities_revised_iff {touched : Channel → Prop} {revise : Channel → Channel} :
    (∀ ch ∈ db.channels.rows, touched ch → ∀ row, row ∈ (revise ch).abilities ↔ row ∈ (revise ch).span) ↔
      ∀ ch ∈ db.channels.rows, touched ch → (revise ch).Unambiguous :=
  forall₂_congr fun ch _ => imp_congr Iff.rfl (abilities_span_iff (revise ch))

theorem forall_sameId {property : Channel → Prop} {id : Int} (mem : ch ∈ db.channels.rows) (same : ch.id = id) :
    (∀ other ∈ db.channels.rows, other.id = id → property other) ↔ property ch := by
  refine ⟨fun all => all ch mem same, fun here other listed otherSame => ?_⟩
  cases channel_unique listed mem (otherSame.trans same.symm)
  exact here

theorem mirrored_update_iff (mirrored : Mirrored db) {data row : Channel} (found : db.channels.lookup data.id = some row) :
    Mirrored (performed (.updateChannel data :: rebuildWrites (updatedChannel db data)) db) ↔ (data.updates row).Unambiguous := by
  obtain ⟨mem, sameId⟩ := lookup_some found
  have built : updatedChannel db data = data.updates row := by
    simp [updatedChannel, apply, Store.setChannels, lookup_modify, found, revision, sameId]
  have revised : Revised db (performed (.updateChannel data :: rebuildWrites (updatedChannel db data)) db)
      (fun ch => ch.id = data.id) (revision (fun ch => ch.id = data.id) data.updates)
      fun ch => (revision (fun ch => ch.id = data.id) data.updates ch).abilities := by
    rw [performed_cons]
    refine revised_rebuilt (revision_id _ data.updates_id) (revision_id _ data.updates_id)
      (fun ch untouched => revision_neg (by simpa using untouched) _) (channels_setChannels db _ _ data.updates_id) rfl
      (rebuilds_rebuildWrites _) fun ch => ?_
    rw [mem_singleton, built]
    constructor
    · rintro rfl
      exact ⟨row, mem, sameId, revision_pos (by simpa using sameId) _⟩
    · rintro ⟨old, stored, touches, rfl⟩
      cases channel_unique stored mem (touches.trans sameId.symm)
      exact revision_pos (by simpa using sameId) _
  rw [mirrored_revised_iff mirrored revised, abilities_revised_iff, forall_sameId mem sameId,
    revision_pos (by simpa using sameId)]

theorem mirrored_update_missing_iff (mirrored : Mirrored db) {data : Channel}
    (missing : db.channels.lookup data.id = none) :
    Mirrored (performed (.updateChannel data :: rebuildWrites (updatedChannel db data)) db) ↔ data.pairs = [] := by
  have absent : ∀ row ∈ db.channels.rows, row.id ≠ data.id := fun row mem same =>
    lookup_none.mp missing (same ▸ mem_map_of_mem mem)
  have unchanged : apply (.updateChannel data) db = db := by
    have rows : db.channels.rows.map (revision (fun row => row.id = data.id) data.updates) = db.channels.rows := by
      refine (map_congr_left fun row mem => ?_).trans (map_id _)
      exact revision_neg (by simpa using absent row mem) _
    have channels : (apply (.updateChannel data) db).channels = db.channels := Table.ext rows
    simp only [apply, Store.setChannels] at channels ⊢
    rw [channels]
  have built : updatedChannel db data = data := by rw [updatedChannel, unchanged, missing, getD_none]
  have split : performed (.updateChannel data :: rebuildWrites (updatedChannel db data)) db =
      performed (rebuildWrites data) db := by
    rw [built, performed_cons, unchanged]
  have rebuilds := rebuilds_rebuildWrites data
  have outside : ∀ row ∈ db.abilities.rows, row.channelId ∉ [data].map Channel.id := by
    intro row stored
    obtain ⟨ch, mem, within⟩ := (mirrored row).mp stored
    rw [channelId_of_span within]
    simpa using absent ch mem
  rw [split, ← abilities_nil_iff]
  constructor
  · intro exact
    rw [eq_nil_iff_forall_not_mem]
    intro row mem
    have stored := (rebuilds.abilities db row).mpr (.inr ⟨data, mem_singleton_self _, mem⟩)
    obtain ⟨ch, listed, within⟩ := (exact row).mp stored
    rw [rebuilds.channels] at listed
    exact absent ch listed ((channelId_of_span within).symm.trans (channelId_of_span (span_of_abilities mem)))
  · intro none row
    rw [rebuilds.abilities, rebuilds.channels, ← mirrored row]
    simp only [mem_singleton, exists_eq_left, none, not_mem_nil, or_false]
    exact ⟨And.left, fun stored => ⟨stored, outside row stored⟩⟩

theorem mirrored_deleteChannels (mirrored : Mirrored db) (ids : List Int) : Mirrored (performed (deleteWrites ids) db) := by
  intro row
  have channels : ∀ ch, ch ∈ (performed (deleteWrites ids) db).channels.rows ↔
      ch ∈ db.channels.rows ∧ ch.id ∉ ids := fun ch => by
    simp [performed, applyAll, deleteWrites, apply, Table.mem_filter]
  have abilities : row ∈ (performed (deleteWrites ids) db).abilities.rows ↔
      row ∈ db.abilities.rows ∧ row.channelId ∉ ids := by
    simp [performed, applyAll, deleteWrites, apply, Table.mem_filter]
  rw [abilities, mirrored row]
  constructor
  · rintro ⟨⟨ch, mem, within⟩, stays⟩
    exact ⟨ch, (channels ch).mpr ⟨mem, channelId_of_span within ▸ stays⟩, within⟩
  · rintro ⟨ch, mem, within⟩
    obtain ⟨stored, stays⟩ := (channels ch).mp mem
    exact ⟨⟨ch, stored, within⟩, channelId_of_span within ▸ stays⟩

theorem mirrored_batchDeleteChannels (mirrored : Mirrored db) (pieces : List (List Int)) :
    Mirrored (performed (pieces.flatMap deleteWrites) db) := by
  induction pieces generalizing db with
  | nil => exact mirrored
  | cons piece rest tail =>
    exact tail (mirrored_deleteChannels mirrored piece)

theorem mirrored_deleteByStatus_iff (mirrored : Mirrored db) (statuses : List Int) :
    Mirrored (performed [.deleteChannelsByStatus statuses] db) ↔
      ∀ ch ∈ db.channels.rows, ch.status ∈ statuses → ch.pairs = [] := by
  have channels : ∀ ch, ch ∈ (performed [.deleteChannelsByStatus statuses] db).channels.rows ↔
      ch ∈ db.channels.rows ∧ ch.status ∉ statuses := fun ch => by
    simp [performed, applyAll, apply, Table.mem_filter]
  have abilities : (performed [.deleteChannelsByStatus statuses] db).abilities = db.abilities := rfl
  constructor
  · intro exact ch mem gone
    rw [← span_nil_iff, eq_nil_iff_forall_not_mem]
    intro row within
    have stored : row ∈ db.abilities.rows := (mirrored row).mpr ⟨ch, mem, within⟩
    obtain ⟨other, listed, otherWithin⟩ := (exact row).mp stored
    obtain ⟨otherMember, stays⟩ := (channels other).mp listed
    cases channel_unique otherMember mem ((channelId_of_span otherWithin).symm.trans (channelId_of_span within))
    exact stays gone
  · intro empty row
    rw [abilities, mirrored row]
    constructor
    · rintro ⟨ch, mem, within⟩
      refine ⟨ch, (channels ch).mpr ⟨mem, fun gone => ?_⟩, within⟩
      have none := (span_nil_iff ch).mpr (empty ch mem gone)
      rw [none] at within
      cases within
    · rintro ⟨ch, mem, within⟩
      exact ⟨ch, ((channels ch).mp mem).1, within⟩

theorem span_map_eq (pairs : revised.pairs = ch.pairs)
    (same : ∀ pair, revised.ability pair = change (ch.ability pair)) : ch.span.map change = revised.span := by
  rw [Channel.span, Channel.span, pairs, List.map_map]
  exact map_congr_left fun pair _ => (same pair).symm

theorem span_map_iff (keeps : ∀ row, (change row).key = row.key) (pairs : revised.pairs = ch.pairs) {agrees : Prop}
    (same : ∀ pair, revised.ability pair = change (ch.ability pair) ↔ agrees) :
    (∀ row, row ∈ ch.span.map change ↔ row ∈ revised.span) ↔ ch.pairs = [] ∨ agrees := by
  constructor
  · intro equal
    by_cases empty : ch.pairs = []
    · exact .inl empty
    obtain ⟨pair, mem⟩ := exists_mem_of_ne_nil _ empty
    have updated : change (ch.ability pair) ∈ ch.span.map change :=
      mem_map_of_mem (mem_span.mpr ⟨pair, mem, rfl⟩)
    obtain ⟨other, _, sameRow⟩ := mem_span.mp ((equal _).mp updated)
    -- the key of the row tells its pair
    have sameKey : (revised.ability other).key = (ch.ability pair).key := by rw [sameRow, keeps]
    have samePair : other = pair := Prod.ext (congrArg (fun key => key.1) sameKey) (congrArg (fun key => key.2.1) sameKey)
    rw [samePair] at sameRow
    exact .inr ((same pair).mp sameRow)
  · rintro (empty | agree) row
    · simp [Channel.span, pairs, empty]
    · rw [span_map_eq pairs fun pair => (same pair).mpr agree]

theorem tag_of_span {row : Ability} (within : row ∈ ch.span) : row.tag = ch.tag := by
  obtain ⟨pair, _, rfl⟩ := mem_span.mp within
  rfl

theorem mirrored_statusByTag (mirrored : Mirrored db) (tag : String) (status : Int) :
    Mirrored (performed [.updateStatusByTag tag status, .updateAbilityStatusByTag tag (status = channelStatusEnabled)] db) := by
  have revised : Revised db
      ((apply (.updateStatusByTag tag status) db).setAbilities (fun row => row.tag = some tag)
        (Ability.setEnabled (status = channelStatusEnabled)) (Ability.setEnabled_key _))
      (fun ch => ch.tag = some tag) (revision (fun ch => ch.tag = some tag) (Channel.setStatus status))
      (fun ch => ch.span.map (Ability.setEnabled (status = channelStatusEnabled))) := by
    refine revised_inPlace mirrored (revision_id _ (Channel.setStatus_id status))
      (fun ch untouched => revision_neg (by simpa using untouched) _)
      (channels_setChannels db _ _ (Channel.setStatus_id status)) rfl fun ch row within => ?_
    rw [tag_of_span within]
    exact decide_eq_true_iff
  refine (mirrored_revised_iff mirrored revised).mpr fun ch _ touches row => ?_
  have now : revision (fun ch => ch.tag = some tag) (Channel.setStatus status) ch = ch.setStatus status :=
    revision_pos (by simpa using touches) _
  have rows : ch.span.map (Ability.setEnabled (status = channelStatusEnabled)) = (ch.setStatus status).span :=
    span_map_eq rfl fun _ => rfl
  rw [now, rows]

structure SameRows (first second : Channel) : Prop where
  id : first.id = second.id
  models : first.models = second.models
  group : first.group = second.group
  weight : first.weight = second.weight
  priority : first.priority = second.priority
  tag : first.tag = second.tag

variable {first second : Channel}

theorem pairs_congr (models : first.models = second.models) (group : first.group = second.group) :
    first.pairs = second.pairs := by
  rw [Channel.pairs, Channel.pairs, Channel.modelNames, Channel.modelNames, Channel.groupNames, Channel.groupNames, models, group]

theorem SameRows.pairs (same : SameRows first second) : first.pairs = second.pairs :=
  pairs_congr same.models same.group

theorem SameRows.ability (same : SameRows first second) (pair : String × String) :
    first.ability pair = { second.ability pair with enabled := first.status = channelStatusEnabled } := by
  simp only [Channel.ability, Channel.getPriority, Channel.getWeight, same.id, same.priority, same.weight, same.tag]

theorem sameRows_withStatus (env : Env) (ch : Channel) (usingKey : String) (status : Int) (reason : String) :
    SameRows (withStatus env ch usingKey status reason) ch := by
  unfold withStatus handlerMultiKeyUpdate
  split
  · split
    · exact ⟨rfl, rfl, rfl, rfl, rfl, rfl⟩
    simp only
    split <;> exact ⟨rfl, rfl, rfl, rfl, rfl, rfl⟩
  · exact ⟨rfl, rfl, rfl, rfl, rfl, rfl⟩

theorem span_congr (same : SameRows first second) (status : first.status = second.status) : first.span = second.span := by
  rw [Channel.span, Channel.span, same.pairs]
  refine map_congr_left fun pair _ => ?_
  rw [same.ability, status]
  rfl

variable {changed : Channel}

theorem sameRows_saveOver (same : SameRows changed ch) :
    SameRows (changed.saveOver ch) ch := ⟨rfl, same.models, same.group, same.weight, same.priority, same.tag⟩

theorem mirrored_saveChannel (mirrored : Mirrored db) (same : SameRows changed ch)
    (status : changed.status = ch.status) (mem : ch ∈ db.channels.rows) :
    Mirrored (performed [.saveChannel changed] db) := by
  have spans : ∀ other ∈ db.channels.rows,
      (revision (fun row => row.id = changed.id) changed.saveOver other).span = other.span := by
    intro other listed
    by_cases touches : other.id = changed.id
    · rw [revision_pos (by simpa using touches)]
      cases channel_unique listed mem (touches.trans same.id)
      exact span_congr (sameRows_saveOver same) status
    · rw [revision_neg (by simpa using touches)]
  intro row
  have channels : (performed [.saveChannel changed] db).channels.rows =
      db.channels.rows.map (revision (fun row => row.id = changed.id) changed.saveOver) := channels_setChannels db _ _ changed.saveOver_id
  rw [channels]
  refine (mirrored row).trans ?_
  simp only [List.mem_map, exists_exists_and_eq_and]
  constructor
  · rintro ⟨other, listed, within⟩
    exact ⟨other, listed, (spans other listed).symm ▸ within⟩
  · rintro ⟨other, listed, within⟩
    exact ⟨other, listed, spans other listed ▸ within⟩

theorem mirrored_saveStatus_iff (mirrored : Mirrored db) (same : SameRows changed ch)
    (mem : ch ∈ db.channels.rows) (enabled : Bool) :
    Mirrored (performed [.saveChannel changed, .updateAbilityStatus ch.id enabled] db) ↔
      ch.pairs = [] ∨ enabled = decide (changed.status = channelStatusEnabled) := by
  have revised : Revised db
      ((apply (.saveChannel changed) db).setAbilities (fun row => row.channelId = ch.id) (Ability.setEnabled enabled)
        (Ability.setEnabled_key _))
      (fun other => other.id = ch.id) (revision (fun row => row.id = changed.id) changed.saveOver)
      (fun other => other.span.map (Ability.setEnabled enabled)) := by
    refine revised_inPlace mirrored (revision_id _ changed.saveOver_id)
      (fun other untouched => revision_neg (by simpa [same.id] using untouched) _)
      (channels_setChannels db _ _ changed.saveOver_id) rfl fun other row within => ?_
    rw [channelId_of_span within]
    exact decide_eq_true_iff
  refine (mirrored_revised_iff mirrored revised).trans ?_
  rw [forall_sameId mem rfl, revision_pos (by simp [same.id])]
  refine span_map_iff (Ability.setEnabled_key enabled) (sameRows_saveOver same).pairs fun pair => ?_
  rw [(sameRows_saveOver same).ability]
  simp only [Ability.setEnabled, Channel.saveOver, Ability.mk.injEq, true_and, and_true]
  exact eq_comm

/-! ### Edits of all channels of a tag -/

def TagEdit.revise (edit : TagEdit) (tag : String) : Channel → Channel :=
  revision (fun ch => ch.tag = some tag) (edit.data tag).updates

variable {tag : String} (edit : TagEdit)

theorem TagEdit.revise_pos (tagged : ch.tag = some tag) :
    edit.revise tag ch = (edit.data tag).updates ch := revision_pos (by simpa using tagged) _

theorem TagEdit.revise_neg (other : ch.tag ≠ some tag) :
    edit.revise tag ch = ch := revision_neg (by simpa using other) _

theorem TagEdit.revise_id (tag : String) (ch : Channel) : (edit.revise tag ch).id = ch.id :=
  revision_id _ (edit.data tag).updates_id ch

theorem TagEdit.updates_tag (tagged : ch.tag = some tag) :
    ((edit.data tag).updates ch).tag = some (edit.newTag.getD tag) := by
  simp only [Channel.updates, TagEdit.data, tagged]
  split
  next same => simp [same]
  · cases edit.newTag <;> rfl

theorem TagEdit.channels_edit (tag : String) (db : Store) :
    (apply (.updateChannelsByTag tag (edit.data tag)) db).channels.rows = db.channels.rows.map (edit.revise tag) :=
  channels_setChannels db _ _ (edit.data tag).updates_id

theorem mirrored_recreate_iff (mirrored : Mirrored db) (tag : String) (edit : TagEdit) :
    Mirrored (performed (.updateChannelsByTag tag (edit.data tag) ::
        (answer (.channelsByTag (edit.newTag.getD tag)) (apply (.updateChannelsByTag tag (edit.data tag)) db)).flatMap
          rebuildWrites) db) ↔ ∀ ch ∈ db.channels.rows, (edit.revise tag ch).tag = some (edit.newTag.getD tag) →
        (edit.revise tag ch).Unambiguous := by
  have distinct : ((answer (.channelsByTag (edit.newTag.getD tag))
      (apply (.updateChannelsByTag tag (edit.data tag)) db)).map Channel.id).Nodup :=
    (distinct _).sublist (filter_sublist.map Channel.id)
  have revised : Revised db (performed (.updateChannelsByTag tag (edit.data tag) ::
        (answer (.channelsByTag (edit.newTag.getD tag)) (apply (.updateChannelsByTag tag (edit.data tag)) db)).flatMap
          rebuildWrites) db)
      (fun ch => (edit.revise tag ch).tag = some (edit.newTag.getD tag)) (edit.revise tag)
      fun ch => (edit.revise tag ch).abilities := by
    rw [performed_cons]
    refine revised_rebuilt (edit.revise_id tag) (edit.revise_id tag) (fun ch untouched => ?_) (edit.channels_edit tag db) rfl
      (rebuilds_all distinct) fun ch => ?_
    · apply edit.revise_neg
      intro tagged
      apply untouched
      rw [edit.revise_pos tagged]
      exact edit.updates_tag tagged
    · rw [answer, List.mem_filter, edit.channels_edit, List.mem_map, decide_eq_true_iff]
      constructor
      · rintro ⟨⟨old, stored, rfl⟩, tagged⟩
        exact ⟨old, stored, tagged, rfl⟩
      · rintro ⟨old, stored, tagged, rfl⟩
        exact ⟨⟨old, stored, rfl⟩, tagged⟩
  rw [mirrored_revised_iff mirrored revised, abilities_revised_iff]

/-- An edit that keeps groups and models agrees with the update of the rows, unless the weight is set to zero. -/
theorem ability_edited_iff {edit : TagEdit} (tagged : ch.tag = some tag) (pair : String × String) :
    ((edit.data tag).updates ch).ability pair = (ch.ability pair).updates edit.newTag edit.priority edit.weight ↔
      (edit.weight = some 0 → ch.getWeight = 0) := by
  have tags : edit.newTag.or (some tag) = some (edit.newTag.getD tag) := by cases edit.newTag <;> rfl
  have status : ((edit.data tag).updates ch).status = ch.status := by simp [Channel.updates, TagEdit.data, given]
  have priorities : ((edit.data tag).updates ch).getPriority = edit.priority.getD ch.getPriority := by
    unfold Channel.getPriority Channel.updates TagEdit.data
    cases edit.priority <;> rfl
  have weights : ((edit.data tag).updates ch).getWeight = given 0 (edit.weight.getD 0) ch.getWeight ↔
      (edit.weight = some 0 → ch.getWeight = 0) := by
    unfold Channel.getWeight Channel.updates TagEdit.data
    cases edit.weight with
    | none => simp [given]
    | some weight =>
      by_cases zero : weight = 0
      · simp [given, zero, eq_comm]
      · simp [given, zero]
  rw [← weights]
  simp [Channel.ability, Ability.updates, edit.updates_tag tagged, tagged, status, tags, priorities, Channel.updates_id]

theorem mirrored_editInPlace_iff (mirrored : Mirrored db) {edit : TagEdit} (keeps : edit.shouldReCreateAbilities = false) :
    Mirrored (performed [.updateChannelsByTag tag (edit.data tag),
        .updateAbilityByTag tag edit.newTag edit.priority edit.weight] db) ↔
      (edit.weight = some 0 → ∀ ch ∈ db.channels.rows, ch.tag = some tag → ch.pairs = [] ∨ ch.getWeight = 0) := by
  have revised : Revised db
      ((apply (.updateChannelsByTag tag (edit.data tag)) db).setAbilities (fun row => row.tag = some tag)
        (Ability.updates edit.newTag edit.priority edit.weight) (Ability.updates_key _ _ _))
      (fun ch => ch.tag = some tag) (edit.revise tag)
      (fun ch => ch.span.map (Ability.updates edit.newTag edit.priority edit.weight)) := by
    refine revised_inPlace mirrored (edit.revise_id tag) (fun ch untouched => edit.revise_neg untouched)
      (edit.channels_edit tag db) rfl fun ch row within => ?_
    rw [tag_of_span within]
    exact decide_eq_true_iff
  have texts : edit.models.getD "" = "" ∧ edit.group.getD "" = "" := by simpa [TagEdit.shouldReCreateAbilities] using keeps
  have each : ∀ ch : Channel, ch.tag = some tag →
      ((∀ row, row ∈ ch.span.map (Ability.updates edit.newTag edit.priority edit.weight) ↔
          row ∈ (edit.revise tag ch).span) ↔
        ch.pairs = [] ∨ (edit.weight = some 0 → ch.getWeight = 0)) := by
    intro ch tagged
    rw [edit.revise_pos tagged]
    apply span_map_iff (Ability.updates_key _ _ _)
    · apply pairs_congr
      · simp [Channel.updates, TagEdit.data, texts.1, given]
      · simp [Channel.updates, TagEdit.data, texts.2, given]
    · exact ability_edited_iff tagged
  refine (mirrored_revised_iff mirrored revised).trans ?_
  constructor
  · intro all zero ch mem tagged
    exact ((each ch tagged).mp (all ch mem tagged)).imp_right fun agree => agree zero
  intro all ch mem tagged
  refine (each ch tagged).mpr ?_
  by_cases zero : edit.weight = some 0
  · exact (all zero ch mem tagged).imp_right fun agree _ => agree
  · exact .inr fun same => absurd same zero

/-- The rows are rebuilt from channels that were read before the new tag could be seen. -/
theorem mirrored_batchSetChannelTag_iff (mirrored : Mirrored db) (ids : List Int) (tag : Option String) :
    Mirrored (performed (.updateTag ids tag :: (answer (.channelsByIds ids) db).flatMap rebuildWrites) db) ↔
      ∀ ch ∈ db.channels.rows, ch.id ∈ ids → ch.pairs = [] ∨ ch.tag = tag ∧ ch.Unambiguous := by
  have distinct : ((answer (.channelsByIds ids) db).map Channel.id).Nodup :=
    db.channels.distinct.sublist (filter_sublist.map Channel.id)
  have revised : Revised db (performed (.updateTag ids tag :: (answer (.channelsByIds ids) db).flatMap rebuildWrites) db)
      (fun ch => ch.id ∈ ids) (revision (fun ch => ch.id ∈ ids) (Channel.setTag tag))
      fun ch => (id ch).abilities := by
    rw [performed_cons]
    refine revised_rebuilt (revision_id _ (Channel.setTag_id tag)) (fun _ => rfl)
      (fun ch untouched => revision_neg (by simpa using untouched) _)
      (channels_setChannels db _ _ (Channel.setTag_id tag)) rfl (rebuilds_all distinct) fun ch => ?_
    rw [answer, List.mem_filter, decide_eq_true_iff]
    constructor
    · rintro ⟨stored, listed⟩
      exact ⟨ch, stored, listed, rfl⟩
    · rintro ⟨old, stored, listed, rfl⟩
      exact ⟨stored, listed⟩
  rw [mirrored_revised_iff mirrored revised]
  refine forall₂_congr fun ch _ => imp_congr_right fun listed => ?_
  rw [revision_pos (by simpa using listed)]
  constructor
  · intro same
    by_cases empty : ch.pairs = []
    · exact .inl empty
    have tagged : ch.tag = tag := by
      obtain ⟨row, built⟩ := exists_mem_of_ne_nil _ (mt (abilities_nil_iff ch).mp empty)
      rw [← tag_of_span (span_of_abilities built)]
      exact tag_of_span ((same row).mp built)
    have unchanged : ch.setTag tag = ch := by rw [← tagged]; rfl
    rw [unchanged] at same
    exact .inr ⟨tagged, (abilities_span_iff ch).mp same⟩
  · rintro (empty | ⟨tagged, unambiguous⟩)
    · have none : (ch.setTag tag).span = [] := (span_nil_iff _).mpr empty
      intro row
      rw [none, id, (abilities_nil_iff ch).mpr empty]
    · have unchanged : ch.setTag tag = ch := by rw [← tagged]; rfl
      rw [unchanged]
      exact (abilities_span_iff ch).mpr unambiguous

theorem mirrored_empty : Mirrored Store.empty := fun row => by simp [Store.empty, Table.empty]

theorem mirrored_fixAbility_iff (db : Store) :
    Mirrored (performed (.deleteAllAbilities :: (chunk 50 db.channels.rows).flatMap fixWrites) db) ↔
      ∀ ch ∈ db.channels.rows, ch.Unambiguous := by
  have rebuilds := rebuilds_fix db.channels.distinct
  have inserted : Inserted Store.empty
      (performed (.deleteAllAbilities :: (chunk 50 db.channels.rows).flatMap fixWrites) db) db.channels.rows := by
    rw [performed_cons]
    refine ⟨fun ch => ?_, fun row => ?_⟩
    · rw [rebuilds.channels]
      simp [Store.empty, Table.empty, apply]
    · rw [rebuilds.abilities]
      simp [Store.empty, Table.empty, apply]
  exact mirrored_inserted_iff mirrored_empty inserted db.channels.distinct fun ch none => absurd none not_mem_nil

end Tokengine.Channels
