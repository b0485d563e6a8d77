import Tokengine.Channels.CacheRebuild

/-! Channels that have been moved to another status than enabled, and the choice of a channel from the memory cache. -/

namespace Tokengine.Channels
open Runs List Option Table

/-! ### What a choice returns -/

variable {channels : List Channel} {random : Nat} {ch : Channel}

theorem mem_of_drawFrom {smoothingFactor smoothingAdjustment : Nat}
    (drawn : drawFrom smoothingFactor smoothingAdjustment channels random = some ch) : ch ∈ channels := by
  induction channels generalizing random with
  | nil => cases drawn
  | cons first rest tail =>
    simp only [drawFrom] at drawn
    split at drawn
    · exact Option.some.inj drawn ▸ mem_cons_self
    · exact mem_cons_of_mem _ (tail drawn)

theorem mem_of_drawByWeight {targets : List Channel} (drawn : drawByWeight targets random = some ch) :
    ch ∈ targets := by
  simp only [drawByWeight] at drawn
  split at drawn
  · exact mem_of_drawFrom drawn
  split at drawn <;> exact mem_of_drawFrom drawn

variable {group model : String}

theorem mem_of_chooseAmong {retry : Nat} (chosen : chooseAmong group model retry random channels = .ok (some ch)) :
    ch ∈ channels := by
  simp only [chooseAmong] at chosen
  split at chosen
  · cases chosen
  split at chosen
  next drawn =>
    cases chosen
    exact (List.mem_filter.mp (mem_of_drawByWeight drawn)).1
  · cases chosen

variable {cache : Cache}

theorem id_of_cachedChannels {ids : List Int} (found : cachedChannels cache ids = .ok channels)
    (mem : ch ∈ channels) : ch.id ∈ ids := by
  induction ids generalizing channels with
  | nil =>
    cases found
    cases mem
  | cons id rest tail =>
    unfold cachedChannels at found
    split at found
    · cases found
    next known =>
    cases others : cachedChannels cache rest with
    | error e =>
      rw [others] at found
      cases found
    | ok remaining =>
      rw [others] at found
      cases found
      rcases mem_cons.mp mem with rfl | later
      · exact (lookup_some known).2 ▸ mem_cons_self
      · exact mem_cons_of_mem _ (tail others later)

theorem source_of_choice {retry : Nat}
    (chosen : getRandomSatisfiedChannel cache group model retry random = .ok (some ch)) :
    (∃ model, ch.id ∈ cache.lists.get group model) ∨
      ch ∈ cache.channelsIDM.rows ∧ ch.status = channelStatusEnabled := by
  have listed : ∀ id ∈ satisfying cache group model, ∃ model, id ∈ cache.lists.get group model := by
    intro id mem
    unfold satisfying at mem
    split at mem <;> exact ⟨_, mem⟩
  unfold getRandomSatisfiedChannel at chosen
  split at chosen
  · right
    unfold seedreamChannel at chosen
    split at chosen
    · have found := Except.ok.inj chosen
      have meets := find?_some found
      simp only [Bool.and_eq_true, decide_eq_true_eq] at meets
      exact ⟨mem_of_find?_eq_some found, meets.1.2⟩
    · cases chosen
  next channelId only =>
    left
    cases found : cachedChannels cache [channelId] with
    | error e =>
      rw [found] at chosen
      cases chosen
    | ok channels =>
      rw [found] at chosen
      have head : channels.head? = some ch := Except.ok.inj chosen
      exact listed _ (only ▸ id_of_cachedChannels found (mem_of_head? head))
  · left
    cases found : cachedChannels cache (satisfying cache group model) with
    | error e =>
      rw [found] at chosen
      cases chosen
    | ok channels =>
      rw [found] at chosen
      exact listed _ (id_of_cachedChannels found (mem_of_chooseAmong chosen))

/-! ### The system -/

/-- The cache, and the channels that have been moved to another status than enabled and not been enabled since. -/
structure Routing where
  cache : Cache
  retired : List Int

inductive Event
  /-- `InitChannelCache` installs what it has read of the tables. -/
  | rebuild (channels : Table Channel.id) (abilities : Table Ability.key)
  | updateChannelStatus (channelId : Int) (usingKey : String) (status : Int) (reason : String)
  /-- The row of the channel is enabled in the database by another operation. -/
  | enable (channelId : Int)

def noteStatus (retired : List Int) (id : Int) (before after : Int) : List Int :=
  if after = before then retired
  else if after = channelStatusEnabled then retired.filter fun other => other ≠ id
  else id :: retired

def Routing.step (env : Env) (routing : Routing) : Event → Option Routing
  | .rebuild channels abilities =>
    (initChannelCache routing.cache channels.rows abilities.rows).map fun cache => { routing with cache := cache }
  | .updateChannelStatus channelId usingKey status reason =>
    match routing.cache.channelsIDM.lookup channelId with
    | none => some routing
    | some ch => some {
        cache := updateCachedStatus env routing.cache channelId usingKey status reason
        retired := noteStatus routing.retired channelId ch.status (withStatus env ch usingKey status reason).status }
  | .enable channelId => some { routing with retired := routing.retired.filter fun other => other ≠ channelId }

def Channel.LosesLastKey (env : Env) (ch : Channel) (usingKey : String) (status : Int) (reason : String) : Prop :=
  if ch.getKeys env.jsonArray = [] then status ≠ channelStatusEnabled ∧ ch.status ≠ status
  else ch.status ≠ channelStatusAutoDisabled ∧ ch.channelInfo.multiKeySize ≤
    (ch.channelInfo.setKey env.now (keyIndexOf (ch.getKeys env.jsonArray) usingKey) status reason).statusList.rows.length

def Event.Keeps (env : Env) (routing : Routing) : Event → Prop
  | .rebuild channels _ => ∀ ch ∈ channels.rows, ch.id ∈ routing.retired → ch.status ≠ channelStatusEnabled
  | .updateChannelStatus channelId usingKey status reason =>
    ∀ ch, routing.cache.channelsIDM.lookup channelId = some ch →
      (ch.channelInfo.isMultiKey = false → status ≠ channelStatusEnabled → ch.status ≠ status →
        ∀ group model, (routing.cache.lists.get group model).count channelId ≤ 1) ∧
      (ch.channelInfo.isMultiKey = true → ch.LosesLastKey env usingKey status reason →
        ∀ group model, channelId ∉ routing.cache.lists.get group model)
  | .enable _ => True

def Routing.Retires (routing : Routing) : Prop :=
  ∀ id ∈ routing.retired, (∀ group model, id ∉ routing.cache.lists.get group model) ∧
    ∀ ch ∈ routing.cache.channelsIDM.rows, ch.id = id → ch.status ≠ channelStatusEnabled

def Routing.Avoids (routing : Routing) : Prop :=
  ∀ group model retry random ch,
    getRandomSatisfiedChannel routing.cache group model retry random = .ok (some ch) → ch.id ∉ routing.retired

variable {routing : Routing} {abilities : List Ability}

theorem avoids_of_retires (retires : routing.Retires) : routing.Avoids := by
  intro group model retry random ch chosen retired
  obtain ⟨unlisted, disabled⟩ := retires ch.id retired
  rcases source_of_choice chosen with ⟨model, listed⟩ | ⟨mem, enabled⟩
  · exact unlisted group model listed
  · exact disabled ch mem rfl enabled

/-! ### Rebuilding -/

theorem lists_of_initChannelCache {old : Cache}
    (built : initChannelCache old channels abilities = some cache) {id : Int} (listed : id ∈ cache.lists.get group model) :
    ∃ ch ∈ channels, ch.id = id ∧ ch.status = channelStatusEnabled := by
  rw [(initChannelCache_perm built group model).mem_iff] at listed
  obtain ⟨entry, filtered, rfl⟩ := mem_map.mp listed
  obtain ⟨ch, mem, entries⟩ := mem_flatMap.mp (List.mem_filter.mp filtered).1
  obtain ⟨enabled, same, _⟩ := mem_entries.mp entries
  exact ⟨ch, mem, same.symm, enabled⟩

theorem keepPollingIndex_status (old : Table Channel.id) (ch : Channel) :
    (keepPollingIndex old ch).status = ch.status := by
  unfold keepPollingIndex
  split
  · rfl
  · split <;> rfl

theorem rows_saves {table : Table Channel.id} (distinct : (channels.map Channel.id).Nodup)
    (absent : ∀ ch ∈ channels, ch.id ∉ table.rows.map Channel.id) :
    (channels.foldl save table).rows = table.rows ++ channels := by
  induction channels generalizing table with
  | nil => simp
  | cons ch rest tail =>
    rw [map_cons, nodup_cons] at distinct
    have saved : (table.save ch).rows = table.rows ++ [ch] := if_neg (absent ch mem_cons_self)
    have later : ∀ other ∈ rest, other.id ∉ (table.save ch).rows.map Channel.id := by
      intro other mem
      rw [saved, map_append, mem_append, not_or]
      refine ⟨absent other (mem_cons_of_mem _ mem), fun same => ?_⟩
      exact distinct.1 (mem_singleton.mp same ▸ mem_map_of_mem mem)
    rw [foldl_cons, tail distinct.2 later, saved, append_assoc, singleton_append]

variable {channels : Table Channel.id}

theorem rows_of_initChannelCache {old : Cache} (built : initChannelCache old channels.rows abilities = some cache) :
    cache.channelsIDM.rows = channels.rows.map (keepPollingIndex old.channelsIDM) := by
  obtain ⟨lists, _, rfl⟩ := map_eq_some_iff.mp built
  have rows : (channels.rows.foldl save Table.empty).rows = channels.rows :=
    rows_saves channels.distinct fun ch _ absent => absurd absent not_mem_nil
  exact congrArg (map (keepPollingIndex old.channelsIDM)) rows

theorem retires_rebuild_iff {abilities : Table Ability.key}
    (built : initChannelCache routing.cache channels.rows abilities.rows = some cache) :
    Routing.Retires { routing with cache := cache } ↔ ∀ ch ∈ channels.rows, ch.id ∈ routing.retired →
      ch.status ≠ channelStatusEnabled := by
  constructor
  · intro retires ch mem retired
    have row : keepPollingIndex routing.cache.channelsIDM ch ∈ cache.channelsIDM.rows := by
      rw [rows_of_initChannelCache built]
      exact mem_map_of_mem mem
    rw [← keepPollingIndex_status routing.cache.channelsIDM ch]
    exact (retires ch.id retired).2 _ row (keepPollingIndex_id _ ch)
  · intro disabled id retired
    constructor
    · intro group model listed
      obtain ⟨ch, mem, rfl, enabled⟩ := lists_of_initChannelCache built listed
      exact disabled ch mem retired enabled
    · intro row cached same
      rw [rows_of_initChannelCache built] at cached
      obtain ⟨ch, mem, rfl⟩ := mem_map.mp cached
      rw [keepPollingIndex_id] at same
      rw [keepPollingIndex_status]
      exact disabled ch mem (same ▸ retired)

/-! ### A change of status -/

structure StatusSet (before after : Cache) (id : Int) (status : Int) : Prop where
  lists : ∀ group model other, other ∈ after.lists.get group model → other ∈ before.lists.get group model
  rows : ∀ ch ∈ after.channelsIDM.rows,
    ch.id ≠ id ∧ ch ∈ before.channelsIDM.rows ∨ ch.id = id ∧ ch.status = status

theorem retires_statusSet_iff (retires : routing.Retires) {after : Cache} {status : Int}
    (mem : ch ∈ routing.cache.channelsIDM.rows) (set : StatusSet routing.cache after ch.id status) :
    Routing.Retires ⟨after, noteStatus routing.retired ch.id ch.status status⟩ ↔
      (status ≠ ch.status → status ≠ channelStatusEnabled → ∀ group model, ch.id ∉ after.lists.get group model) := by
  have others : ∀ id ∈ routing.retired, id ≠ ch.id → (∀ group model, id ∉ after.lists.get group model) ∧
      ∀ row ∈ after.channelsIDM.rows, row.id = id → row.status ≠ channelStatusEnabled := by
    intro id retired other
    obtain ⟨unlisted, disabled⟩ := retires id retired
    refine ⟨fun group model listed => unlisted group model (set.lists group model id listed), fun row cached same => ?_⟩
    rcases set.rows row cached with ⟨_, old⟩ | ⟨changed, _⟩
    · exact disabled row old same
    · exact absurd (same.symm.trans changed) other
  unfold noteStatus
  by_cases unchanged : status = ch.status
  · rw [if_pos unchanged]
    refine iff_of_true (fun id retired => ?_) fun changes => absurd unchanged changes
    by_cases same : id = ch.id
    · subst same
      obtain ⟨unlisted, disabled⟩ := retires _ retired
      refine ⟨fun group model listed => unlisted group model (set.lists group model _ listed), fun row cached same => ?_⟩
      rcases set.rows row cached with ⟨other, _⟩ | ⟨_, now⟩
      · exact absurd same other
      · rw [now, unchanged]
        exact disabled ch mem rfl
    · exact others id retired same
  · rw [if_neg unchanged]
    by_cases enables : status = channelStatusEnabled
    · rw [if_pos enables]
      refine iff_of_true (fun id retired => ?_) fun _ disables => absurd enables disables
      simp only [List.mem_filter, decide_eq_true_eq] at retired
      exact others id retired.1 retired.2
    · rw [if_neg enables]
      constructor
      · intro next _ _
        exact (next ch.id mem_cons_self).1
      intro unlisted id retired
      by_cases same : id = ch.id
      · subst same
        refine ⟨unlisted unchanged enables, fun row cached same => ?_⟩
        rcases set.rows row cached with ⟨other, _⟩ | ⟨_, now⟩
        · exact absurd same other
        · exact now ▸ enables
      · exact others id ((mem_cons.mp retired).resolve_left same) same

variable {env : Env}

theorem losesLastKey_iff {usingKey : String} {status : Int} {reason : String}
    (multi : ch.channelInfo.isMultiKey = true) : ch.LosesLastKey env usingKey status reason ↔
      (withStatus env ch usingKey status reason).status ≠ ch.status ∧
        (withStatus env ch usingKey status reason).status ≠ channelStatusEnabled := by
  rw [withStatus, if_pos multi, Channel.LosesLastKey]
  simp only [handlerMultiKeyUpdate]
  split
  · exact ⟨fun loses => ⟨loses.2.symm, loses.1⟩, fun loses => ⟨loses.2, loses.1.symm⟩⟩
  have size : (ch.channelInfo.setKey env.now (keyIndexOf (ch.getKeys env.jsonArray) usingKey) status reason).multiKeySize =
      ch.channelInfo.multiKeySize := by
    unfold ChannelInfo.setKey
    split <;> rfl
  rw [size]
  split
  next full =>
    exact ⟨fun loses => ⟨loses.1.symm, (by decide : channelStatusAutoDisabled ≠ channelStatusEnabled)⟩,
      fun loses => ⟨loses.1.symm, full⟩⟩
  next room => exact ⟨fun loses => absurd loses.2 room, fun loses => absurd rfl loses.1⟩

theorem handlerMultiKeyUpdate_id (env : Env) (ch : Channel) (usingKey : String) (status : Int) (reason : String) :
    (handlerMultiKeyUpdate env.jsonArray env.now ch usingKey status reason).id = ch.id := by
  simp only [handlerMultiKeyUpdate]
  split
  · rfl
  · split <;> rfl

theorem statusSet_save {row : Channel} {lists : Lists}
    (shorter : ∀ group model other, other ∈ lists.get group model → other ∈ cache.lists.get group model) :
    StatusSet cache ⟨lists, cache.channelsIDM.save row⟩ row.id row.status := by
  refine ⟨shorter, fun ch saved => ?_⟩
  rcases mem_save.mp saved with rfl | ⟨old, other⟩
  · exact .inr ⟨rfl, rfl⟩
  · exact .inl ⟨other, old⟩

def Lists.eraseEach (lists : Lists) (id : Int) : Lists := fun group => (lists group).map fun models model => (models model).erase id

theorem get_eraseEach (lists : Lists) (id : Int) (group model : String) :
    (lists.eraseEach id).get group model = (lists.get group model).erase id := by
  unfold Lists.get Lists.eraseEach
  cases lists group <;> rfl

theorem not_mem_erase_iff {ids : List Int} {id : Int} : id ∉ ids.erase id ↔ ids.count id ≤ 1 := by
  rw [← count_eq_zero, count_erase_self]
  omega

variable {usingKey : String} {status : Int} {reason : String}

section

variable (found : cache.channelsIDM.lookup ch.id = some ch)
include found

theorem updateCachedStatus_multi (multi : ch.channelInfo.isMultiKey = true) :
    updateCachedStatus env cache ch.id usingKey status reason =
      ⟨cache.lists, cache.channelsIDM.save (withStatus env ch usingKey status reason)⟩ := by
  rw [updateCachedStatus, found, withStatus, if_pos multi]
  exact if_pos multi

theorem updateCachedStatus_single (single : ch.channelInfo.isMultiKey = false) :
    updateCachedStatus env cache ch.id usingKey status reason =
      ⟨if ch.status ≠ status ∧ status ≠ channelStatusEnabled then cache.lists.eraseEach ch.id else cache.lists,
        cache.channelsIDM.save (ch.setStatus status)⟩ := by
  by_cases already : ch.status = status
  · have same : ch.setStatus status = ch := by rw [← already]; rfl
    rw [if_neg fun both => both.1 already, same, save_self found]
    simp [updateCachedStatus, found, single, already]
  · simp only [updateCachedStatus, found, single, already, if_false, Bool.false_eq_true, Cache.updateChannelStatus,
      update_of_lookup found, ne_eq, not_false_eq_true, true_and]
    rfl

end

theorem retires_update_iff (retires : routing.Retires)
    (found : routing.cache.channelsIDM.lookup ch.id = some ch) (usingKey : String) (status : Int)
    (reason : String) : Routing.Retires ⟨updateCachedStatus env routing.cache ch.id usingKey status reason,
        noteStatus routing.retired ch.id ch.status (withStatus env ch usingKey status reason).status⟩ ↔
      (Event.updateChannelStatus ch.id usingKey status reason).Keeps env routing := by
  have mem : ch ∈ routing.cache.channelsIDM.rows := (lookup_some found).1
  have only : ∀ {holds : Channel → Prop}, (∀ row, routing.cache.channelsIDM.lookup ch.id = some row → holds row) ↔ holds ch :=
    ⟨fun all => all ch found, fun holds row same => Option.some.inj (found.symm.trans same) ▸ holds⟩
  rw [Event.Keeps, only]
  cases multi : ch.channelInfo.isMultiKey with
  | true =>
    have id : (withStatus env ch usingKey status reason).id = ch.id := by
      rw [withStatus, if_pos multi]
      exact handlerMultiKeyUpdate_id env ch usingKey status reason
    have set := @statusSet_save routing.cache (withStatus env ch usingKey status reason) routing.cache.lists
      fun _ _ _ listed => listed
    rw [id] at set
    rw [updateCachedStatus_multi found multi, retires_statusSet_iff retires mem set, losesLastKey_iff multi]
    exact ⟨fun next => ⟨fun single => absurd single (by decide), fun _ loses => next loses.1 loses.2⟩,
      fun keeps changes disables => keeps.2 rfl ⟨changes, disables⟩⟩
  | false =>
    have now : (withStatus env ch usingKey status reason).status = status := by
      rw [withStatus, if_neg (by simp [multi])]
    have shorter : ∀ group model other, other ∈ (if ch.status ≠ status ∧ status ≠ channelStatusEnabled then
        routing.cache.lists.eraseEach ch.id else routing.cache.lists).get group model →
          other ∈ routing.cache.lists.get group model := by
      intro group model other listed
      split at listed
      · rw [get_eraseEach] at listed
        exact mem_of_mem_erase listed
      · exact listed
    have set : StatusSet routing.cache ⟨_, routing.cache.channelsIDM.save (ch.setStatus status)⟩ ch.id status :=
      statusSet_save shorter
    rw [now, updateCachedStatus_single found multi, retires_statusSet_iff retires mem set]
    constructor
    · intro next
      refine ⟨fun _ disables changes group model => ?_, fun several => absurd several (by decide)⟩
      have unlisted := next (Ne.symm changes) disables group model
      rwa [if_pos ⟨changes, disables⟩, get_eraseEach, not_mem_erase_iff] at unlisted
    · intro keeps changes disables group model
      rw [if_pos ⟨Ne.symm changes, disables⟩, get_eraseEach, not_mem_erase_iff]
      exact keeps.1 rfl disables (Ne.symm changes) group model

/-- Each event keeps the retired channels out of the lists under its condition, and only then. -/
theorem retires_step_iff {after : Routing} {event : Event} (retires : routing.Retires)
    (taken : routing.step env event = some after) : event.Keeps env routing ↔ after.Retires := by
  cases event with
  | rebuild channels abilities =>
    obtain ⟨cache, built, rfl⟩ := map_eq_some_iff.mp taken
    exact (retires_rebuild_iff built).symm
  | updateChannelStatus channelId usingKey status reason =>
    simp only [Routing.step] at taken
    split at taken
    next missing =>
      cases Option.some.inj taken
      exact iff_of_true (fun ch same => absurd (same.symm.trans missing) (some_ne_none ch)) retires
    next ch found =>
    cases Option.some.inj taken
    have same : ch.id = channelId := (lookup_some found).2
    subst same
    exact (retires_update_iff retires found usingKey status reason).symm
  | enable channelId =>
    cases Option.some.inj taken
    exact iff_of_true trivial fun id retired => retires id (List.mem_filter.mp retired).1

/-- The runs that keep retired channels out of the lists are those whose events meet their conditions. -/
theorem retires_iff (env : Env) (cache : Cache) (events : List Event) :
    Guarded (Routing.step env) (fun routing event => routing.step env event = none ∨ event.Keeps env routing) ⟨cache, []⟩ events ↔
      Along (Routing.step env) Routing.Retires ⟨cache, []⟩ events := by
  refine @guarded_iff_along _ _ Routing.Retires (Routing.step env) _ _ (fun _ => True) (fun _ _ _ _ _ => trivial) ?_ ?_ trivial
    (fun _ none => absurd none not_mem_nil) events
  · intro routing event after _ retires taken
    rw [← retires_step_iff retires taken, or_iff_right]
    exact fun stuck => absurd (taken.symm.trans stuck) (some_ne_none after)
  · exact fun _ _ stuck => .inl stuck

/-- In every run in which no rebuilding installs a retired channel as enabled, no channel is disabled that a list holds
twice, and no channel that a list holds loses its last key: a retired channel is never chosen. -/
theorem retired_channel_never_chosen (env : Env) (cache : Cache) (events : List Event)
    (kept : Guarded (Routing.step env) (fun routing event => event.Keeps env routing) ⟨cache, []⟩ events) :
    Along (Routing.step env) Routing.Avoids ⟨cache, []⟩ events := by
  have retires := (retires_iff env cache events).mp (guarded_mono (fun _ _ keeps => .inr keeps) kept)
  exact fun done initial routing run => avoids_of_retires (retires done initial routing run)

/-- A cache of one channel, which is disabled. -/
theorem retired_single_channel_never_chosen : Along (Routing.step ⟨fun _ => none, 0⟩) Routing.Avoids
      ⟨⟨fun group => if group = "default" then some fun model => if model = "m" then [1] else [] else none,
        Table.empty.save { id := 1, status := 1, models := "m", group := "default" }⟩, []⟩
      [.updateChannelStatus 1 "" channelStatusManuallyDisabled "quota"] := by
  refine retired_channel_never_chosen ⟨fun _ => none, 0⟩ _ _ ⟨fun ch found => ?_, fun _ _ => trivial⟩
  cases Option.some.inj found
  refine ⟨fun _ _ _ group model => ?_, fun several => absurd several (by decide)⟩
  unfold Lists.get
  by_cases sameGroup : group = "default"
  · by_cases sameModel : model = "m" <;> simp [sameGroup, sameModel]
  · simp [sameGroup]

/-- A channel whose group is named twice stays in the list when it is disabled, and so does a channel with several keys
when its last key is disabled. -/
theorem retired_channel_chosen : let env : Env := ⟨fun _ => none, 0⟩
    let ability : Ability := ⟨"a", "m", 1, true, 0, 0, none⟩
    (∃ cache, initChannelCache .empty [{ id := 1, status := 1, models := "m", group := "a,a" }] [ability] = some cache ∧
      ∃ routing, exec (Routing.step env) ⟨cache, []⟩ [.updateChannelStatus 1 "" channelStatusManuallyDisabled ""] = some routing ∧
        routing.retired = [1] ∧
        ((getRandomSatisfiedChannel routing.cache "a" "m" 0 0).toOption.bind id).map (fun ch => (ch.id, ch.status)) =
          some (1, channelStatusManuallyDisabled)) ∧
    ∃ cache, initChannelCache .empty [{ id := 1, status := 1, models := "m", group := "a", key := "k"
                                        channelInfo := { isMultiKey := true, multiKeySize := 1 } }] [ability] = some cache ∧
      ∃ routing, exec (Routing.step env) ⟨cache, []⟩ [.updateChannelStatus 1 "k" channelStatusAutoDisabled "401"] = some routing ∧
        routing.retired = [1] ∧
        ((getRandomSatisfiedChannel routing.cache "a" "m" 0 0).toOption.bind id).map (fun ch => (ch.id, ch.status)) =
          some (1, channelStatusAutoDisabled) :=
  ⟨⟨_, rfl, _, rfl, by decide +kernel, by decide +kernel⟩, ⟨_, rfl, _, rfl, by decide +kernel, by decide +kernel⟩⟩

end Tokengine.Channels
