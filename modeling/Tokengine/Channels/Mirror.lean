import Tokengine.Channels.Writes

/-! The abilities as a copy of the channels. Each operation either rebuilds the rows of some channels or updates them in
place; the copy stays exact as long as the rows it writes are those of the channels it leaves behind. -/

namespace Tokengine.Channels
open Transactions List Table

def Channel.span (ch : Channel) : List Ability := ch.pairs.map ch.ability

def Mirrored (db : Store) : Prop := ∀ row, row ∈ db.abilities.rows ↔ ∃ ch ∈ db.channels.rows, row ∈ ch.span

def Channel.Unambiguous (ch : Channel) : Prop :=
  ∀ first ∈ ch.pairs, ∀ second ∈ ch.pairs, pairKey first = pairKey second → first = second

/-! ### The rows that are built -/

section

variable {seen : List String} {pairs : List (String × String)} {pair : String × String}
  (mem : pair ∈ firstPairs seen pairs)
include mem

theorem firstPairs_subset : pair ∈ pairs := by
  induction pairs generalizing seen with
  | nil => exact mem
  | cons first rest tail =>
    unfold firstPairs at mem
    split at mem
    · exact mem_cons_of_mem _ (tail mem)
    rcases mem_cons.mp mem with rfl | later
    · exact mem_cons_self
    · exact mem_cons_of_mem _ (tail later)

theorem firstPairs_unseen : pairKey pair ∉ seen := by
  induction pairs generalizing seen with
  | nil => cases mem
  | cons first rest tail =>
    unfold firstPairs at mem
    split at mem
    · exact tail mem
    next unseen =>
      rcases mem_cons.mp mem with rfl | later
      · exact unseen
      · exact fun old => tail later (mem_cons_of_mem _ old)

end

theorem firstPairs_nodup (seen : List String) (pairs : List (String × String)) :
    ((firstPairs seen pairs).map pairKey).Nodup := by
  induction pairs generalizing seen with
  | nil => exact nodup_nil
  | cons first rest tail =>
    unfold firstPairs
    split
    · exact tail seen
    rw [map_cons, nodup_cons]
    refine ⟨fun repeated => ?_, tail _⟩
    obtain ⟨pair, mem, same⟩ := mem_map.mp repeated
    exact firstPairs_unseen mem (same ▸ mem_cons_self)

variable {pair : String × String} {ch : Channel}

theorem firstPairs_complete {seen : List String} {pairs : List (String × String)}
    (mem : pair ∈ pairs) : pairKey pair ∈ seen ∨ ∃ other ∈ firstPairs seen pairs, pairKey other = pairKey pair := by
  induction pairs generalizing seen with
  | nil => cases mem
  | cons first rest tail =>
    unfold firstPairs
    split
    next old =>
      rcases mem_cons.mp mem with rfl | later
      · exact .inl old
      · exact tail later
    · rcases mem_cons.mp mem with rfl | later
      · exact .inr ⟨pair, mem_cons_self, rfl⟩
      rcases tail later with old | ⟨other, found, same⟩
      · rcases mem_cons.mp old with same | old
        · exact .inr ⟨first, mem_cons_self, same.symm⟩
        · exact .inl old
      · exact .inr ⟨other, mem_cons_of_mem _ found, same⟩

theorem ability_injective (ch : Channel) : Function.Injective ch.ability := by
  intro first second same
  exact Prod.ext (congrArg Ability.group same) (congrArg Ability.model same)

section

variable {row : Ability}

theorem mem_abilities : row ∈ ch.abilities ↔ ∃ pair ∈ firstPairs [] ch.pairs, ch.ability pair = row := mem_map

theorem mem_span : row ∈ ch.span ↔ ∃ pair ∈ ch.pairs, ch.ability pair = row := mem_map

theorem channelId_of_span (mem : row ∈ ch.span) : row.channelId = ch.id := by
  obtain ⟨pair, _, rfl⟩ := mem_span.mp mem
  rfl

theorem span_of_abilities (mem : row ∈ ch.abilities) : row ∈ ch.span := by
  obtain ⟨pair, built, rfl⟩ := mem_abilities.mp mem
  exact mem_span.mpr ⟨pair, firstPairs_subset built, rfl⟩

end

theorem abilities_distinct (ch : Channel) : (ch.abilities.map Ability.key).Nodup := by
  have pairs : (firstPairs [] ch.pairs).Nodup := (firstPairs_nodup [] ch.pairs).of_map
  rw [Channel.abilities, map_map]
  refine pairs.map fun first second same => ?_
  simp only [Function.comp_apply, Ability.key, Channel.ability, Prod.mk.injEq, and_true] at same
  exact Prod.ext same.1 same.2

theorem exists_built (mem : pair ∈ ch.pairs) : ∃ other ∈ firstPairs [] ch.pairs, pairKey other = pairKey pair := by
  rcases firstPairs_complete mem with old | built
  · exact absurd old not_mem_nil
  · exact built

variable (ch : Channel)

theorem abilities_span_iff : (∀ row, row ∈ ch.abilities ↔ row ∈ ch.span) ↔ ch.Unambiguous := by
  constructor
  · intro same first firstMember second secondMember sameKey
    have built : ∀ pair ∈ ch.pairs, pair ∈ firstPairs [] ch.pairs := by
      intro pair mem
      obtain ⟨other, found, equal⟩ := mem_abilities.mp ((same _).mpr (mem_span.mpr ⟨pair, mem, rfl⟩))
      exact ability_injective ch equal ▸ found
    exact inj_on_of_nodup_map (firstPairs_nodup [] ch.pairs) (built first firstMember) (built second secondMember)
      sameKey
  · intro unambiguous row
    refine ⟨span_of_abilities, fun mem => ?_⟩
    obtain ⟨pair, listed, rfl⟩ := mem_span.mp mem
    obtain ⟨other, built, sameKey⟩ := exists_built listed
    cases unambiguous other (firstPairs_subset built) pair listed sameKey
    exact mem_abilities.mpr ⟨pair, built, rfl⟩

theorem abilities_nil_iff : ch.abilities = [] ↔ ch.pairs = [] := by
  constructor
  · intro none
    by_contra some
    obtain ⟨pair, mem⟩ := exists_mem_of_ne_nil _ some
    obtain ⟨other, found, _⟩ := exists_built mem
    have built : ch.ability other ∈ ch.abilities := mem_abilities.mpr ⟨other, found, rfl⟩
    rw [none] at built
    cases built
  · intro none
    simp [Channel.abilities, none, firstPairs]

theorem span_nil_iff : ch.span = [] ↔ ch.pairs = [] := map_eq_nil_iff

/-! ### What the writes leave -/

theorem performed_append (first second : List Write) (db : Store) :
    performed (first ++ second) db = performed second (performed first db) := @List.foldl_append ..

theorem performed_cons (write : Write) (writes : List Write) (db : Store) :
    performed (write :: writes) db = performed writes (apply write db) := rfl

theorem performed_addWrites (db : Store) :
    performed (addWrites ch) db = { db with abilities := ch.abilities.foldl insertAbsent db.abilities } := by
  have pieces : ∀ (pieces : List (List Ability)) (db : Store), performed (pieces.map Write.createAbilities) db =
      { db with abilities := pieces.flatten.foldl insertAbsent db.abilities } := by
    intro pieces
    induction pieces with
    | nil => exact fun _ => rfl
    | cons piece rest tail =>
      intro db
      rw [flatten_cons, foldl_append]
      exact tail _
  rw [addWrites, pieces, flatten_chunk (by decide)]

theorem channels_addWrites (db : Store) : (performed (addWrites ch) db).channels = db.channels := by
  rw [performed_addWrites]

variable {db : Store}

theorem mem_addWrites (clear : ∀ row ∈ db.abilities.rows, row.channelId ≠ ch.id) {row : Ability} :
    row ∈ (performed (addWrites ch) db).abilities.rows ↔ row ∈ db.abilities.rows ∨ row ∈ ch.abilities := by
  have absent : ∀ row ∈ ch.abilities, db.abilities.lookup row.key = none := by
    intro row mem
    refine lookup_none.mpr fun present => ?_
    obtain ⟨old, stored, same⟩ := mem_map.mp present
    have ofChannel : old.channelId = row.channelId := congrArg (fun key => key.2.2) same
    exact clear old stored (ofChannel.trans (channelId_of_span (span_of_abilities mem)))
  rw [performed_addWrites]
  exact mem_insertAll (abilities_distinct ch) absent

structure Rebuilds (writes : List Write) (rebuilt : List Channel) : Prop where
  channels : ∀ db, (performed writes db).channels = db.channels
  abilities : ∀ db row, row ∈ (performed writes db).abilities.rows ↔
    row ∈ db.abilities.rows ∧ row.channelId ∉ rebuilt.map Channel.id ∨ ∃ ch ∈ rebuilt, row ∈ ch.abilities

theorem Rebuilds.append {first second : List Write} {channels others : List Channel} (one : Rebuilds first channels)
    (two : Rebuilds second others) (distinct : ∀ ch ∈ channels, ch.id ∉ others.map Channel.id) :
    Rebuilds (first ++ second) (channels ++ others) := by
  refine ⟨fun db => ?_, fun db row => ?_⟩
  · rw [performed_append, two.channels, one.channels]
  rw [performed_append, two.abilities, one.abilities, map_append, mem_append]
  constructor
  · rintro (⟨⟨stays, outside⟩ | ⟨ch, mem, built⟩, beyond⟩ | ⟨ch, mem, built⟩)
    · exact .inl ⟨stays, not_or.mpr ⟨outside, beyond⟩⟩
    · exact .inr ⟨ch, mem_append_left _ mem, built⟩
    · exact .inr ⟨ch, mem_append_right _ mem, built⟩
  · rintro (⟨stays, outside⟩ | ⟨ch, mem, built⟩)
    · rw [not_or] at outside
      exact .inl ⟨.inl ⟨stays, outside.1⟩, outside.2⟩
    rcases mem_append.mp mem with mem | mem
    · have ofChannel := channelId_of_span (span_of_abilities built)
      exact .inl ⟨.inr ⟨ch, mem, built⟩, ofChannel ▸ distinct ch mem⟩
    · exact .inr ⟨ch, mem, built⟩

theorem rebuilds_nil : Rebuilds [] [] := ⟨fun _ => rfl, fun db row => by simp [performed, applyAll]⟩

theorem rebuilds_flatMap {ι : Type} {items : List ι} {writes : ι → List Write} {channels : ι → List Channel}
    (each : ∀ item ∈ items, Rebuilds (writes item) (channels item))
    (distinct : ((items.flatMap channels).map Channel.id).Nodup) :
    Rebuilds (items.flatMap writes) (items.flatMap channels) := by
  induction items with
  | nil => exact rebuilds_nil
  | cons item rest tail =>
    rw [flatMap_cons, map_append, nodup_append] at distinct
    have later := tail (fun item mem => each item (mem_cons_of_mem _ mem)) distinct.2.1
    refine (each item mem_cons_self).append later fun ch mem repeated => ?_
    exact distinct.2.2 _ (mem_map_of_mem mem) _ repeated rfl

section

variable {channels : List Channel} (distinct : (channels.map Channel.id).Nodup)
include distinct

theorem mem_addAll (clear : ∀ row ∈ db.abilities.rows, row.channelId ∉ channels.map Channel.id) :
    (performed (channels.flatMap addWrites) db).channels = db.channels ∧
      ∀ row, row ∈ (performed (channels.flatMap addWrites) db).abilities.rows ↔
        row ∈ db.abilities.rows ∨ ∃ ch ∈ channels, row ∈ ch.abilities := by
  induction channels generalizing db with
  | nil => exact ⟨rfl, fun row => by simp [performed, applyAll]⟩
  | cons ch rest tail =>
    rw [map_cons, nodup_cons] at distinct
    have first : ∀ row, row ∈ (performed (addWrites ch) db).abilities.rows ↔
        row ∈ db.abilities.rows ∨ row ∈ ch.abilities := by
      intro row
      apply mem_addWrites
      intro old stored same
      exact clear old stored (same ▸ mem_cons_self)
    have later : ∀ row ∈ (performed (addWrites ch) db).abilities.rows, row.channelId ∉ rest.map Channel.id := by
      intro row mem
      rcases (first row).mp mem with stored | built
      · exact fun repeated => clear row stored (mem_cons_of_mem _ repeated)
      · rw [channelId_of_span (span_of_abilities built)]
        exact distinct.1
    obtain ⟨kept, added⟩ := tail distinct.2 later
    rw [flatMap_cons, performed_append]
    refine ⟨kept.trans (channels_addWrites ch db), fun row => ?_⟩
    rw [added, first, or_assoc]
    simp

theorem rebuilds_fixWrites : Rebuilds (fixWrites channels) channels := by
  have split : ∀ db : Store, performed (fixWrites channels) db =
      performed (channels.flatMap addWrites) (apply (.deleteAbilities (channels.map Channel.id)) db) := by
    intro db
    rw [fixWrites, performed_cons]
  have clear : ∀ (db : Store), ∀ row ∈ (apply (.deleteAbilities (channels.map Channel.id)) db).abilities.rows,
      row.channelId ∉ channels.map Channel.id := by
    intro db row mem
    simpa using (Table.mem_filter.mp mem).2
  refine ⟨fun db => ?_, fun db row => ?_⟩
  · rw [split, (mem_addAll distinct (clear db)).1]
    rfl
  · rw [split, (mem_addAll distinct (clear db)).2]
    simp [apply, Table.mem_filter]

theorem rebuilds_fix : Rebuilds ((chunk 50 channels).flatMap fixWrites) channels := by
  have pieces : (chunk 50 channels).flatMap id = channels := by
    rw [flatMap_id]
    exact flatten_chunk (by decide) channels
  have piecewise : ∀ piece ∈ chunk 50 channels, Rebuilds (fixWrites piece) (id piece) := by
    intro piece mem
    apply rebuilds_fixWrites
    refine distinct.sublist (List.Sublist.map _ ?_)
    rw [← flatten_chunk (show 0 < 50 by decide) channels]
    exact sublist_flatten_of_mem mem
  have all := rebuilds_flatMap piecewise (by rw [pieces]; exact distinct)
  rw [pieces] at all
  exact all

omit distinct in
theorem rebuilds_rebuildWrites (ch : Channel) : Rebuilds (rebuildWrites ch) [ch] := by
  have distinct : ([ch].map Channel.id).Nodup := nodup_singleton ch.id
  have fixes := rebuilds_fixWrites distinct
  rwa [fixWrites, flatMap_singleton] at fixes

theorem rebuilds_all : Rebuilds (channels.flatMap rebuildWrites) channels := by
  have single : channels.flatMap (fun ch => [ch]) = channels := flatMap_singleton' channels
  have all := rebuilds_flatMap (fun ch (_ : ch ∈ channels) => rebuilds_rebuildWrites ch) (by rw [single]; exact distinct)
  rw [single] at all
  exact all

end

/-! ### Operations that change channels in place -/

/-- The channels `touched` get a new version, and their rows are replaced. -/
structure Revised (db after : Store) (touched : Channel → Prop) (revise : Channel → Channel)
    (rowsOf : Channel → List Ability) : Prop where
  ids : ∀ ch, (revise ch).id = ch.id
  ofChannel : ∀ ch, ∀ row ∈ rowsOf ch, row.channelId = ch.id
  kept : ∀ ch, ¬touched ch → revise ch = ch
  channels : after.channels.rows = db.channels.rows.map revise
  abilities : ∀ row, row ∈ after.abilities.rows ↔
    row ∈ db.abilities.rows ∧ (∀ ch ∈ db.channels.rows, touched ch → row.channelId ≠ ch.id) ∨
      ∃ ch ∈ db.channels.rows, touched ch ∧ row ∈ rowsOf ch

theorem channel_unique {first second : Channel} (one : first ∈ db.channels.rows)
    (two : second ∈ db.channels.rows) (same : first.id = second.id) : first = second :=
  inj_on_of_nodup_map db.channels.distinct one two same

variable {touched : Channel → Prop} {revise : Channel → Channel} {rows : List Channel}

/-- The copy stays exact when the rows of each touched channel are those of its new version. -/
theorem mirrored_revised_iff {after : Store}
    {rowsOf : Channel → List Ability} (mirrored : Mirrored db) (revised : Revised db after touched revise rowsOf) :
    Mirrored after ↔ ∀ ch ∈ db.channels.rows, touched ch → ∀ row, row ∈ rowsOf ch ↔ row ∈ (revise ch).span := by
  have spans : ∀ row, (∃ ch ∈ after.channels.rows, row ∈ ch.span) ↔
      ∃ ch ∈ db.channels.rows, row ∈ (revise ch).span := by
    intro row
    rw [revised.channels]
    simp
  constructor
  · intro exact ch mem touches row
    have equivalence := exact row
    rw [revised.abilities, spans] at equivalence
    constructor
    · intro built
      obtain ⟨other, stored, within⟩ := equivalence.mp (.inr ⟨ch, mem, touches, built⟩)
      have sameId : other.id = ch.id := by
        rw [← revised.ids other, ← channelId_of_span within, revised.ofChannel ch row built]
      cases channel_unique stored mem sameId
      exact within
    · intro within
      have ofChannel : row.channelId = ch.id := (channelId_of_span within).trans (revised.ids ch)
      rcases equivalence.mpr ⟨ch, mem, within⟩ with ⟨_, untouched⟩ | ⟨other, stored, _, built⟩
      · exact absurd ofChannel (untouched ch mem touches)
      · cases channel_unique stored mem ((revised.ofChannel other row built).symm.trans ofChannel)
        exact built
  · intro same row
    rw [revised.abilities, spans, mirrored row]
    constructor
    · rintro (⟨⟨ch, mem, within⟩, untouched⟩ | ⟨ch, mem, touches, built⟩)
      · have ofChannel := channelId_of_span within
        have kept : ¬touched ch := fun touches => untouched ch mem touches ofChannel
        exact ⟨ch, mem, by rw [revised.kept ch kept]; exact within⟩
      · exact ⟨ch, mem, (same ch mem touches row).mp built⟩
    · rintro ⟨ch, mem, within⟩
      by_cases touches : touched ch
      · exact .inr ⟨ch, mem, touches, (same ch mem touches row).mpr within⟩
      rw [revised.kept ch touches] at within
      refine .inl ⟨⟨ch, mem, within⟩, fun other stored otherTouched sameId => ?_⟩
      cases channel_unique stored mem (sameId.symm.trans (channelId_of_span within))
      exact touches otherTouched

/-- The touched channels have their rows rebuilt, from a version that may be another than the one that is stored. -/
theorem revised_rebuilt {middle : Store} {writes : List Write}
    {source : Channel → Channel} {rebuilt : List Channel} (ids : ∀ ch, (revise ch).id = ch.id)
    (sourceIds : ∀ ch, (source ch).id = ch.id) (kept : ∀ ch, ¬touched ch → revise ch = ch)
    (channels : middle.channels.rows = db.channels.rows.map revise) (abilities : middle.abilities = db.abilities)
    (rebuilds : Rebuilds writes rebuilt)
    (listed : ∀ ch, ch ∈ rebuilt ↔ ∃ old ∈ db.channels.rows, touched old ∧ source old = ch) :
    Revised db (performed writes middle) touched revise fun ch => (source ch).abilities := by
  refine ⟨ids, fun ch row built => ?_, kept, ?_, fun row => ?_⟩
  · exact (channelId_of_span (span_of_abilities built)).trans (sourceIds ch)
  · rw [rebuilds.channels, channels]
  rw [rebuilds.abilities, abilities]
  have outside : row.channelId ∉ rebuilt.map Channel.id ↔
      ∀ ch ∈ db.channels.rows, touched ch → row.channelId ≠ ch.id := by
    constructor
    · intro absent ch mem touches same
      apply absent
      rw [same, ← sourceIds ch]
      exact mem_map_of_mem ((listed _).mpr ⟨ch, mem, touches, rfl⟩)
    · intro apart present
      obtain ⟨ch, mem, same⟩ := mem_map.mp present
      obtain ⟨old, stored, touches, rfl⟩ := (listed ch).mp mem
      exact apart old stored touches (same.symm.trans (sourceIds old))
  rw [outside]
  apply or_congr Iff.rfl
  constructor
  · rintro ⟨ch, mem, built⟩
    obtain ⟨old, stored, touches, rfl⟩ := (listed ch).mp mem
    exact ⟨old, stored, touches, built⟩
  · rintro ⟨old, stored, touches, built⟩
    exact ⟨source old, (listed _).mpr ⟨old, stored, touches, rfl⟩, built⟩

theorem revised_inPlace {middle : Store}
    {concerns : Ability → Bool} {change : Ability → Ability} {keeps : ∀ row, (change row).key = row.key}
    (mirrored : Mirrored db) (ids : ∀ ch, (revise ch).id = ch.id) (kept : ∀ ch, ¬touched ch → revise ch = ch)
    (channels : middle.channels.rows = db.channels.rows.map revise) (abilities : middle.abilities = db.abilities)
    (concerned : ∀ ch, ∀ row ∈ ch.span, concerns row = true ↔ touched ch) :
    Revised db (middle.setAbilities concerns change keeps) touched revise fun ch => ch.span.map change := by
  have sameId : ∀ row, (change row).channelId = row.channelId := fun row => congrArg (fun key => key.2.2) (keeps row)
  refine ⟨ids, fun ch row updated => ?_, kept, channels, fun row => ?_⟩
  · obtain ⟨old, within, rfl⟩ := mem_map.mp updated
    exact (sameId old).trans (channelId_of_span within)
  have rows : row ∈ (middle.setAbilities concerns change keeps).abilities.rows ↔
      ∃ old ∈ db.abilities.rows, revision concerns change old = row := by
    simp only [Store.setAbilities, mem_modify, abilities]
  rw [rows]
  constructor
  · rintro ⟨old, stored, rfl⟩
    obtain ⟨ch, mem, within⟩ := (mirrored old).mp stored
    by_cases touches : touched ch
    · rw [revision, if_pos ((concerned ch old within).mpr touches)]
      exact .inr ⟨ch, mem, touches, mem_map_of_mem within⟩
    rw [revision, if_neg fun concern => touches ((concerned ch old within).mp concern)]
    refine .inl ⟨stored, fun other listed otherTouched same => ?_⟩
    cases channel_unique listed mem (same.symm.trans (channelId_of_span within))
    exact touches otherTouched
  · rintro (⟨stored, apart⟩ | ⟨ch, mem, touches, updated⟩)
    · obtain ⟨ch, mem, within⟩ := (mirrored row).mp stored
      have untouched : ¬touched ch := fun touches => apart ch mem touches (channelId_of_span within)
      exact ⟨row, stored, if_neg fun concern => untouched ((concerned ch row within).mp concern)⟩
    · obtain ⟨old, within, rfl⟩ := mem_map.mp updated
      exact ⟨old, (mirrored old).mpr ⟨ch, mem, within⟩, if_pos ((concerned ch old within).mpr touches)⟩

/-! ### New channels -/

structure Inserted (db after : Store) (rows : List Channel) : Prop where
  channels : ∀ ch, ch ∈ after.channels.rows ↔ ch ∈ db.channels.rows ∨ ch ∈ rows
  abilities : ∀ row, row ∈ after.abilities.rows ↔ row ∈ db.abilities.rows ∨ ∃ ch ∈ rows, row ∈ ch.abilities

def Unused (db : Store) (ids : List Int) : Prop :=
  (∀ ch ∈ db.channels.rows, ch.id ∉ ids) ∧ ∀ row ∈ db.abilities.rows, row.channelId ∉ ids

theorem mirrored_inserted_iff {after : Store} (mirrored : Mirrored db)
    (inserted : Inserted db after rows) (distinct : (rows.map Channel.id).Nodup)
    (unused : ∀ ch ∈ db.channels.rows, ch.id ∉ rows.map Channel.id) : Mirrored after ↔ ∀ ch ∈ rows, ch.Unambiguous := by
  have spans : ∀ row, (∃ ch ∈ after.channels.rows, row ∈ ch.span) ↔
      row ∈ db.abilities.rows ∨ ∃ ch ∈ rows, row ∈ ch.span := by
    intro row
    simp only [inserted.channels, or_and_right, exists_or, mirrored row]
  constructor
  · intro exact ch mem
    rw [← abilities_span_iff]
    refine fun row => ⟨span_of_abilities, fun within => ?_⟩
    rcases (inserted.abilities row).mp ((exact row).mpr ((spans row).mpr (.inr ⟨ch, mem, within⟩))) with
      stored | ⟨other, listed, built⟩
    · obtain ⟨old, oldMember, oldWithin⟩ := (mirrored row).mp stored
      refine absurd ?_ (unused old oldMember)
      rw [← channelId_of_span oldWithin, channelId_of_span within]
      exact mem_map_of_mem mem
    · have sameId : other.id = ch.id :=
        (channelId_of_span (span_of_abilities built)).symm.trans (channelId_of_span within)
      cases inj_on_of_nodup_map distinct listed mem sameId
      exact built
  · intro unambiguous row
    rw [inserted.abilities, spans]
    apply or_congr Iff.rfl
    constructor
    · rintro ⟨ch, mem, built⟩
      exact ⟨ch, mem, span_of_abilities built⟩
    · rintro ⟨ch, mem, within⟩
      exact ⟨ch, mem, ((abilities_span_iff ch).mpr (unambiguous ch mem) row).mpr within⟩

@[simp]
theorem map_created_id (rows : List Channel) : (rows.map created).map Channel.id = rows.map Channel.id := by
  rw [map_map]
  rfl

theorem inserted_piece (distinct : (rows.map Channel.id).Nodup)
    (unused : Unused db (rows.map Channel.id)) : Inserted db (performed (insertWrites rows) db) (rows.map created) := by
  have ids : ((rows.map created).map Channel.id).Nodup := by rw [map_created_id]; exact distinct
  have split : performed (insertWrites rows) db =
      performed ((rows.map created).flatMap addWrites) (apply (.createChannels (rows.map created)) db) := by
    rw [flatMap_map, insertWrites, performed_cons]
  have absent : ∀ row ∈ rows.map created, db.channels.lookup row.id = none := by
    intro row mem
    refine lookup_none.mpr fun present => ?_
    obtain ⟨old, stored, same⟩ := mem_map.mp present
    apply unused.1 old stored
    rw [same, ← map_created_id]
    exact mem_map_of_mem mem
  obtain ⟨channels, abilities⟩ := @mem_addAll (apply (.createChannels (rows.map created)) db) (rows.map created) ids (by
    rw [map_created_id]
    exact unused.2)
  rw [split]
  refine ⟨fun ch => ?_, abilities⟩
  rw [channels]
  exact mem_insertAll ids absent

theorem inserted_pieces {pieces : List (List Channel)} (distinct : (pieces.flatten.map Channel.id).Nodup)
    (unused : Unused db (pieces.flatten.map Channel.id)) :
    Inserted db (performed (pieces.flatMap insertWrites) db) (pieces.flatten.map created) := by
  induction pieces generalizing db with
  | nil => exact ⟨fun _ => by simp [performed, applyAll], fun _ => by simp [performed, applyAll]⟩
  | cons piece rest tail =>
    rw [flatten_cons, map_append] at distinct unused
    rw [nodup_append] at distinct
    have first : Inserted db (performed (insertWrites piece) db) (piece.map created) := by
      apply inserted_piece distinct.1
      exact ⟨fun ch mem present => unused.1 ch mem (mem_append_left _ present),
        fun row mem present => unused.2 row mem (mem_append_left _ present)⟩
    have others : ∀ id ∈ piece.map Channel.id, id ∉ rest.flatten.map Channel.id := fun id one two => distinct.2.2 id one id two rfl
    have later : Unused (performed (insertWrites piece) db) (rest.flatten.map Channel.id) := by
      constructor
      · intro ch mem
        rcases (first.channels ch).mp mem with stored | new
        · exact fun present => unused.1 ch stored (mem_append_right _ present)
        · apply others
          rw [← map_created_id]
          exact mem_map_of_mem new
      · intro row mem
        rcases (first.abilities row).mp mem with stored | ⟨ch, new, built⟩
        · exact fun present => unused.2 row stored (mem_append_right _ present)
        rw [channelId_of_span (span_of_abilities built)]
        apply others
        rw [← map_created_id]
        exact mem_map_of_mem new
    have remaining := tail distinct.2.1 later
    rw [flatMap_cons, performed_append, flatten_cons, map_append]
    refine ⟨fun ch => ?_, fun row => ?_⟩
    · rw [remaining.channels, first.channels, mem_append, or_assoc]
    · simp only [remaining.abilities, first.abilities, mem_append, or_and_right, exists_or, or_assoc]

end Tokengine.Channels
