import Mathlib.Data.List.Count
import Tokengine.Channels.Cache
import Tokengine.Channels.Mirror

/-! The rebuilding of the cache: the contents of the two tables from which it can be rebuilt, and what the lists then hold. -/

namespace Tokengine.Channels
open Transactions Interleaving List Function Option

/-! ### The entries of the lists -/

abbrev Entry := Int × (String × String)

def Channel.entries (ch : Channel) : List Entry :=
  if ch.status = channelStatusEnabled then ch.listings.map fun pair => (ch.id, pair) else []

structure Appended (lists after : Lists) (entries : List Entry) : Prop where
  domain : ∀ group, (after group).isSome = (lists group).isSome
  get : ∀ group model, after.get group model =
    lists.get group model ++ (entries.filter fun entry => entry.2 = (group, model)).map Prod.fst

theorem appended_nil (lists : Lists) : Appended lists lists [] := ⟨fun _ => rfl, fun _ _ => by simp⟩

variable {lists : Lists} {pair : String × String}

theorem Appended.trans {middle after : Lists} {first second : List Entry} (one : Appended lists middle first)
    (two : Appended middle after second) : Appended lists after (first ++ second) := by
  refine ⟨fun group => (two.domain group).trans (one.domain group), fun group model => ?_⟩
  rw [two.get, one.get, filter_append, map_append, append_assoc]

theorem appended_addListing {id : Int} {after : Lists}
    (added : addListing id lists pair = some after) : Appended lists after [(id, pair)] := by
  obtain ⟨models, found, rfl⟩ := map_eq_some_iff.mp added
  constructor
  · intro group
    by_cases same : group = pair.1
    · simp [same, found]
    · simp [update_of_ne same]
  · intro group model
    by_cases same : group = pair.1
    · subst same
      by_cases sameModel : model = pair.2
      · subst sameModel
        simp [Lists.get, found]
      · have other : pair ≠ (pair.1, model) := fun equal => sameModel (congrArg Prod.snd equal).symm
        simp [Lists.get, found, update_of_ne sameModel, other]
    · have other : pair ≠ (group, model) := fun equal => same (congrArg Prod.fst equal).symm
      simp [Lists.get, update_of_ne same, other]

/-- A fold of steps, each of which appends the entries of its item or panics for want of a map. -/
theorem foldlM_appended {ι : Type} {add : Lists → ι → Option Lists} {entries : ι → List Entry}
    (appends : ∀ lists item after, add lists item = some after → Appended lists after (entries item))
    (panics : ∀ lists item, add lists item = none ↔ ∃ entry ∈ entries item, lists entry.2.1 = none) (items : List ι) (lists : Lists) :
    (∀ after, items.foldlM add lists = some after → Appended lists after (items.flatMap entries)) ∧
      (items.foldlM add lists = none ↔ ∃ entry ∈ items.flatMap entries, lists entry.2.1 = none) := by
  induction items generalizing lists with
  | nil =>
    refine ⟨fun after same => ?_, by simp⟩
    cases Option.some.inj same
    exact appended_nil lists
  | cons item rest tail =>
    rw [foldlM_cons, flatMap_cons]
    cases added : add lists item with
    | none =>
      obtain ⟨entry, mem, missing⟩ := (panics lists item).mp added
      refine ⟨fun after same => absurd same.symm (some_ne_none after), iff_of_true rfl ?_⟩
      exact ⟨entry, mem_append_left _ mem, missing⟩
    | some middle =>
      have first := appends lists item middle added
      have present : ¬∃ entry ∈ entries item, lists entry.2.1 = none := by
        rw [← panics, added]
        exact some_ne_none middle
      have missing : ∀ group, middle group = none ↔ lists group = none := by
        intro group
        rw [← isNone_iff_eq_none, ← isNone_iff_eq_none, ← not_isSome, ← not_isSome, first.domain]
      obtain ⟨appended, panicked⟩ := tail middle
      refine ⟨fun after same => first.trans (appended after same), panicked.trans ?_⟩
      simp only [missing, mem_append, or_and_right, exists_or]
      exact (or_iff_right present).symm

theorem addListing_none {id : Int} : addListing id lists pair = none ↔ lists pair.1 = none := map_eq_none_iff

theorem foldlM_addListing (id : Int) (pairs : List (String × String)) (lists : Lists) :
    (∀ after, pairs.foldlM (addListing id) lists = some after → Appended lists after (pairs.map fun pair => (id, pair))) ∧
      (pairs.foldlM (addListing id) lists = none ↔ ∃ entry ∈ pairs.map (fun pair => (id, pair)), lists entry.2.1 = none) := by
  rw [map_eq_flatMap]
  refine foldlM_appended (fun lists pair after added => appended_addListing added) (fun lists pair => ?_) pairs lists
  simp [addListing_none]

variable (ch : Channel)

theorem addChannel_spec (lists : Lists) :
    (∀ after, addChannel lists ch = some after → Appended lists after ch.entries) ∧
      (addChannel lists ch = none ↔ ∃ entry ∈ ch.entries, lists entry.2.1 = none) := by
  unfold addChannel Channel.entries
  split
  · exact foldlM_addListing ch.id ch.listings lists
  refine ⟨fun after same => ?_, by simp⟩
  cases Option.some.inj same
  exact appended_nil lists

theorem addChannels_spec (channels : List Channel) (lists : Lists) :
    (∀ after, channels.foldlM addChannel lists = some after → Appended lists after (channels.flatMap Channel.entries)) ∧
      (channels.foldlM addChannel lists = none ↔ ∃ entry ∈ channels.flatMap Channel.entries, lists entry.2.1 = none) :=
  foldlM_appended (fun lists ch => (addChannel_spec ch lists).1) (fun lists ch => (addChannel_spec ch lists).2)
    channels lists

/-! ### What the rebuilt cache lists -/

variable {abilities : List Ability}

theorem groupLists_none {group : String} : groupLists abilities group = none ↔ group ∉ abilities.map Ability.group := by
  unfold groupLists
  split
  next present => exact iff_of_false (some_ne_none _) (not_not_intro present)
  next absent => exact iff_of_true rfl absent

theorem groupLists_get (abilities : List Ability) (group model : String) : (groupLists abilities).get group model = [] := by
  unfold Lists.get groupLists
  split <;> rfl

variable {old : Cache} {channels : List Channel}

theorem initChannelCache_none : initChannelCache old channels abilities = none ↔
      ∃ entry ∈ channels.flatMap Channel.entries, entry.2.1 ∉ abilities.map Ability.group := by
  rw [initChannelCache, map_eq_none_iff, (addChannels_spec channels _).2]
  simp only [groupLists_none]

variable {cache : Cache}

variable (built : initChannelCache old channels abilities = some cache)

include built

theorem initChannelCache_perm (group model : String) : (cache.lists.get group model).Perm
      (((channels.flatMap Channel.entries).filter fun entry => entry.2 = (group, model)).map Prod.fst) := by
  obtain ⟨lists, folded, rfl⟩ := map_eq_some_iff.mp built
  have appended := (addChannels_spec channels _).1 lists folded
  have entries := appended.get group model
  rw [groupLists_get, nil_append] at entries
  rw [← entries]
  simp only [Lists.get]
  cases lists group with
  | none => exact List.Perm.refl []
  | some models => exact perm_insertionSort _ (models model)

theorem initChannelCache_count (id : Int) (group model : String) :
    (cache.lists.get group model).count id = (channels.flatMap Channel.entries).count (id, (group, model)) := by
  rw [(initChannelCache_perm built group model).count_eq, count, count, countP_map, countP_filter]
  apply countP_congr
  intro entry _
  simp [Prod.ext_iff]

omit built

theorem count_listings (group model : String) :
    ch.listings.count (group, model) = ch.groupNames.count group * ch.modelNames.count model := by
  unfold Channel.listings
  induction ch.groupNames with
  | nil => simp
  | cons first rest tail =>
    rw [flatMap_cons, count_append, tail]
    by_cases same : first = group
    · subst same
      have row : (ch.modelNames.map fun model => (first, model)).count (first, model) = ch.modelNames.count model :=
        count_map_of_injective _ _ (fun one two equal => congrArg Prod.snd equal) model
      rw [row, count_cons_self, Nat.add_mul, Nat.one_mul, Nat.add_comm]
    · have row : (ch.modelNames.map fun model => (first, model)).count (group, model) = 0 := by
        rw [count_eq_zero]
        intro mem
        obtain ⟨_, _, equal⟩ := mem_map.mp mem
        exact same (congrArg Prod.fst equal)
      rw [row, count_cons_of_ne same, Nat.zero_add]

theorem count_entries_self (group model : String) : ch.entries.count (ch.id, (group, model)) =
      if ch.status = channelStatusEnabled then ch.groupNames.count group * ch.modelNames.count model else 0 := by
  unfold Channel.entries
  split
  · rw [← count_listings]
    exact count_map_of_injective _ _ (fun one two equal => congrArg Prod.snd equal) (group, model)
  · rfl

variable {ch : Channel}

theorem id_of_entries {entry : Entry} (mem : entry ∈ ch.entries) : entry.1 = ch.id := by
  unfold Channel.entries at mem
  split at mem
  · obtain ⟨pair, _, rfl⟩ := mem_map.mp mem
    rfl
  · cases mem

theorem count_entries (distinct : (channels.map Channel.id).Nodup) (mem : ch ∈ channels) (pair : String × String) :
    (channels.flatMap Channel.entries).count (ch.id, pair) = ch.entries.count (ch.id, pair) := by
  induction channels with
  | nil => cases mem
  | cons first rest tail =>
    rw [map_cons, nodup_cons] at distinct
    rw [flatMap_cons, count_append]
    rcases mem_cons.mp mem with rfl | later
    · have others : (rest.flatMap Channel.entries).count (ch.id, pair) = 0 := by
        rw [count_eq_zero]
        intro listed
        obtain ⟨other, stored, entry⟩ := mem_flatMap.mp listed
        have same : ch.id = other.id := id_of_entries entry
        exact distinct.1 (same ▸ mem_map_of_mem stored)
      rw [others, Nat.add_zero]
    · have foreign : first.entries.count (ch.id, pair) = 0 := by
        rw [count_eq_zero]
        intro entry
        have same : ch.id = first.id := id_of_entries entry
        exact distinct.1 (same ▸ mem_map_of_mem later)
      rw [foreign, Nat.zero_add, tail distinct.2 later]

/-! ### The contents that can be rebuilt -/

def Cache.Exact (cache : Cache) (channels : List Channel) : Prop :=
  ∀ ch ∈ channels, ∀ group model, (cache.lists.get group model).count ch.id =
    if ch.status = channelStatusEnabled ∧ group ∈ ch.groupNames ∧ model ∈ ch.modelNames then 1 else 0

def Channel.NamesDistinct (ch : Channel) : Prop :=
  ch.groupNames ≠ [] → ch.modelNames ≠ [] → ch.groupNames.Nodup ∧ ch.modelNames.Nodup

theorem counts_once_iff (groups models : List String) :
    (∀ group model, groups.count group * models.count model = if group ∈ groups ∧ model ∈ models then 1 else 0) ↔
      (groups ≠ [] → models ≠ [] → groups.Nodup ∧ models.Nodup) := by
  constructor
  · intro counts someGroup someModel
    obtain ⟨group, groupMember⟩ := exists_mem_of_ne_nil _ someGroup
    obtain ⟨model, modelMember⟩ := exists_mem_of_ne_nil _ someModel
    have once : ∀ group ∈ groups, ∀ model ∈ models, groups.count group = 1 ∧ models.count model = 1 := by
      intro group groupMember model modelMember
      have product := counts group model
      rw [if_pos ⟨groupMember, modelMember⟩] at product
      exact ⟨Nat.eq_one_of_mul_eq_one_right product, Nat.eq_one_of_mul_eq_one_left product⟩
    rw [nodup_iff_count_eq_one, nodup_iff_count_eq_one]
    exact ⟨fun other mem => (once other mem model modelMember).1, fun other mem => (once group groupMember other mem).2⟩
  · intro distinct group model
    split
    next both =>
      obtain ⟨groupsDistinct, modelsDistinct⟩ := distinct (ne_nil_of_mem both.1) (ne_nil_of_mem both.2)
      rw [count_eq_one_of_mem groupsDistinct both.1, count_eq_one_of_mem modelsDistinct both.2]
    next absent =>
      rw [Nat.mul_eq_zero, count_eq_zero, count_eq_zero]
      exact not_and_or.mp absent

include built in
theorem exact_iff (distinct : (channels.map Channel.id).Nodup) :
    cache.Exact channels ↔ ∀ ch ∈ channels, ch.status = channelStatusEnabled → ch.NamesDistinct := by
  refine forall₂_congr fun ch mem => ?_
  have counts : ∀ group model, (cache.lists.get group model).count ch.id =
      if ch.status = channelStatusEnabled then ch.groupNames.count group * ch.modelNames.count model else 0 := by
    intro group model
    rw [initChannelCache_count built, count_entries distinct mem, count_entries_self]
  simp only [counts]
  by_cases enabled : ch.status = channelStatusEnabled
  · simp only [enabled, if_true, true_and, true_imp_iff]
    exact counts_once_iff ch.groupNames ch.modelNames
  · simp [enabled]

theorem mem_entries {entry : Entry} :
    entry ∈ ch.entries ↔ ch.status = channelStatusEnabled ∧ entry.1 = ch.id ∧
      entry.2.1 ∈ ch.groupNames ∧ entry.2.2 ∈ ch.modelNames := by
  obtain ⟨id, group, model⟩ := entry
  unfold Channel.entries Channel.listings
  split
  next enabled => simp [enabled, eq_comm, and_comm, and_left_comm]
  next disabled => simp [disabled]

theorem rebuilt_iff (old : Cache) (channels : List Channel) (abilities : List Ability) :
    (∃ cache, initChannelCache old channels abilities = some cache) ↔
      ∀ ch ∈ channels, ch.status = channelStatusEnabled → ch.modelNames ≠ [] →
        ∀ group ∈ ch.groupNames, group ∈ abilities.map Ability.group := by
  rw [← ne_none_iff_exists', ne_eq, initChannelCache_none]
  constructor
  · intro none ch mem enabled models group named
    by_contra absent
    obtain ⟨model, modelNamed⟩ := exists_mem_of_ne_nil _ models
    exact none ⟨(ch.id, (group, model)),
      mem_flatMap.mpr ⟨ch, mem, mem_entries.mpr ⟨enabled, rfl, named, modelNamed⟩⟩, absent⟩
  · rintro present ⟨entry, listed, absent⟩
    obtain ⟨ch, mem, entries⟩ := mem_flatMap.mp listed
    obtain ⟨enabled, _, groupNamed, modelNamed⟩ := mem_entries.mp entries
    exact absent (present ch mem enabled (ne_nil_of_mem modelNamed) entry.2.1 groupNamed)

/-- For every content of the two tables: the cache is rebuilt without a panic and lists every enabled channel exactly once
under each of its groups and models, if and only if the abilities know the groups of the enabled channels that have models,
and no enabled channel names a group or a model twice. -/
theorem cache_rebuilt_iff (old : Cache) (channels : Table Channel.id) (abilities : Table Ability.key) :
    (∃ cache, initChannelCache old channels.rows abilities.rows = some cache ∧ cache.Exact channels.rows) ↔
      ∀ ch ∈ channels.rows, ch.status = channelStatusEnabled →
        (ch.modelNames ≠ [] → ∀ group ∈ ch.groupNames, group ∈ abilities.rows.map Ability.group) ∧
          ch.NamesDistinct := by
  constructor
  · rintro ⟨cache, built, exact⟩ ch mem enabled
    exact ⟨(rebuilt_iff old channels.rows abilities.rows).mp ⟨cache, built⟩ ch mem enabled,
      (exact_iff built channels.distinct).mp exact ch mem enabled⟩
  · intro each
    obtain ⟨cache, built⟩ := (rebuilt_iff old channels.rows abilities.rows).mpr fun ch mem enabled =>
      (each ch mem enabled).1
    exact ⟨cache, built, (exact_iff built channels.distinct).mpr fun ch mem enabled => (each ch mem enabled).2⟩

/-- The cache is rebuilt between the two statements of `Insert`, and between the deletion and the new rows of `FixAbility`:
both end the process. A group that is named twice lists the channel twice. -/
theorem rebuild_interrupts_writers : let ch : Channel := { id := 1, models := "m", group := "default" }
    let inserting : Action schema (Option Cache) := do
      insert ch
      pure (some .empty)
    let fixing : Action schema (Option Cache) := do
      fixAbility
      pure (some .empty)
    (∃ machine, Runs.exec (step exec) (launch Store.empty [] [inserting, rebuildCache .empty]) [0, 1, 1] = some machine ∧
      machine.processes[1]? = some (.done (.ok none))) ∧
    (∃ machine, Runs.exec (step exec) (launch Store.empty [] [inserting, rebuildCache .empty, fixing]) [0, 0, 2, 2, 1, 1] = some machine ∧
      machine.processes[1]? = some (.done (.ok none))) ∧
    ((initChannelCache .empty [{ ch with status := 1, group := "a,a" }]
      [⟨"a", "m", 1, true, 0, 0, none⟩]).map fun cache => cache.lists.get "a" "m") = some [1, 1] :=
  ⟨⟨_, rfl, rfl⟩, ⟨_, rfl, rfl⟩, by decide +kernel⟩

end Tokengine.Channels
