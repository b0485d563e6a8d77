import Mathlib.Data.List.Rotate
import Tokengine.Channels.Keys

/-! The keys of a channel in polling mode take turns: calls on the object in the cache give the enabled keys in the order of
their places, again and again. -/

namespace Tokengine.Channels.KeyPolling
open Transactions List

section Calls

variable (env : Env) (ch : Channel)

abbrev keyCount : Nat := (ch.getKeys env.jsonArray).length

abbrev enabled : List Nat := ch.channelInfo.enabledIndexes (keyCount env ch)

def startAt : Nat :=
  let idx := ch.channelInfo.multiKeyPollingIndex
  if idx < 0 ∨ keyCount env ch ≤ idx then 0 else idx.toNat

def withIndex (idx : Nat) : Channel := ch.setInfo { ch.channelInfo with multiKeyPollingIndex := idx }

/-- Calls one after the other on the object in the cache, each on what the one before has left of it. -/
def calls (random : Nat) : Nat → Channel → Action schema (List (String × Nat))
  | 0, _ => pure []
  | count + 1, ch => do
    let (first, ch) ← getNextEnabledKey env (some (some ch)) random ch
    let others ← calls random count ch
    pure (first :: others)

def answer (place : Nat) : String × Nat := ((ch.getKeys env.jsonArray).getD place "", place)

/-- The enabled places in the order in which they are polled. -/
def turns : List Nat := ((range (keyCount env ch)).rotate (startAt env ch)).filter fun place =>
  ch.channelInfo.keyStatus place = channelStatusEnabled

end Calls

theorem filter_rotate {α : Type} (holds : α → Bool) {items : List α} {start : Nat} (inside : start ≤ items.length) :
    (items.rotate start).filter holds = (items.filter holds).rotate ((items.take start).filter holds).length := by
  have turned := rotate_append_length_eq ((items.take start).filter holds) ((items.drop start).filter holds)
  rw [← filter_append, take_append_drop] at turned
  rw [rotate_eq_drop_append_take inside, filter_append, turned]

/-- After the place that has had its turn, the others come first. -/
theorem next_turn {holds : Nat → Bool} {count start place : Nat}
    (found : (((range count).rotate start).filter holds).head? = some place) :
    ((range count).rotate ((place + 1) % count)).filter holds = (((range count).rotate start).filter holds).rotate 1 := by
  rw [head?_filter] at found
  obtain ⟨held, before, after, parts, skipped⟩ := find?_eq_some_iff_append.mp found
  have here : ((range count).rotate start)[before.length]? = some place := by simp [parts]
  have inside : before.length < count := by simpa using (List.getElem?_eq_some_iff.mp here).1
  rw [getElem?_rotate (by rwa [length_range]), length_range, getElem?_range (Nat.mod_lt _ (by omega))] at here
  have turned := rotate_append_length_eq (before ++ [place]) after
  rw [← append_cons, ← parts, length_append, length_singleton, rotate_rotate, ← rotate_mod, length_range, Nat.add_left_comm,
    ← Nat.add_assoc, ← Nat.mod_add_mod, Option.some.inj here] at turned
  have nothing : before.filter holds = [] := filter_eq_nil_iff.mpr fun other mem => by simpa using skipped other mem
  rw [turned, parts]
  simp [nothing, held]

variable {env : Env} {ch : Channel} {place : Nat}

theorem pollFrom_eq : ch.channelInfo.pollFrom (keyCount env ch) (startAt env ch) = (turns env ch).head? := by
  have rotated : ∀ count start : Nat, (range count).rotate start = (range count).map fun offset => (start + offset) % count := by
    refine fun count start => ext_getElem (by simp) fun _ _ _ => ?_
    rw [getElem_rotate]
    simp [Nat.add_comm]
  rw [turns, head?_filter, rotated]
  rfl

theorem turns_polled (found : (turns env ch).head? = some place) :
    turns env (withIndex ch ((place + 1) % keyCount env ch)) = (turns env ch).rotate 1 := by
  have nonempty : keyCount env ch ≠ 0 := fun none => by simp [turns, none] at found
  have below : (place + 1) % keyCount env ch < keyCount env ch := Nat.mod_lt _ (by omega)
  have started : startAt env (withIndex ch ((place + 1) % keyCount env ch)) = (place + 1) % keyCount env ch := by
    change (if ((place + 1) % keyCount env ch : Nat) < (0 : Int) ∨ (keyCount env ch : Int) ≤ ((place + 1) % keyCount env ch : Nat)
      then 0 else Int.toNat ((place + 1) % keyCount env ch : Nat)) = _
    rw [if_neg (by omega), Int.toNat_natCast]
  rw [turns, started]
  exact next_turn found

/-- A call gives the key whose turn it is, and leaves the index behind it. -/
theorem getNextEnabledKey_polled (polls : ch.channelInfo.polls = true) (random : Nat)
    (found : (turns env ch).head? = some place) : getNextEnabledKey env (some (some ch)) random ch =
      pure (answer env ch place, withIndex ch ((place + 1) % keyCount env ch)) := by
  obtain ⟨multi, mode⟩ := Bool.and_eq_true_iff.mp polls
  have listed : place ∈ enabled env ch := by simpa [turns, ChannelInfo.enabledIndexes] using mem_of_mem_head? found
  rw [← pollFrom_eq] at found
  unfold getNextEnabledKey
  rw [if_pos multi, of_decide_eq_true mode]
  dsimp only
  split
  next none => simp [ChannelInfo.enabledIndexes, keyCount, none] at listed
  next none _ =>
    rw [enabled, none] at listed
    cases listed
  next =>
    rw [if_neg (by decide), if_pos rfl]
    have cached : ∀ rest : ChannelInfo → Action schema Polled,
        cacheGetChannelInfo (some (some ch)) ch.id >>= rest = rest ch.channelInfo := fun _ => rfl
    unfold startAt keyCount at found
    rw [pollNextKey, cached]
    dsimp only at found ⊢
    rw [found]
    rfl

/-- The calls give the keys their turns, again and again. -/
theorem calls_take_turns (random count : Nat) (polls : ch.channelInfo.polls = true) (some : turns env ch ≠ []) :
    calls env random count ch = pure ((range count).map fun call =>
      answer env ch ((turns env ch).getD (call % (turns env ch).length) 0)) := by
  induction count generalizing ch with
  | zero => rfl
  | succ count tail =>
    obtain ⟨place, rest, order⟩ := exists_cons_of_ne_nil some
    have found : (turns env ch).head? = .some place := by rw [order]; rfl
    have next := turns_polled found
    have later := @tail (withIndex ch ((place + 1) % keyCount env ch)) polls (by rw [next]; simpa using some)
    have turned : ∀ call, ((turns env ch).rotate 1).getD (call % (turns env ch).length) 0 =
        (turns env ch).getD ((call + 1) % (turns env ch).length) 0 := by
      intro call
      have inside : call % (turns env ch).length < (turns env ch).length := Nat.mod_lt _ (length_pos_iff.mpr some)
      rw [getD_eq_getElem?_getD, getD_eq_getElem?_getD, getElem?_rotate inside, Nat.mod_add_mod]
    rw [calls, getNextEnabledKey_polled polls random found]
    change (calls env random count _ >>= fun others => pure (answer env ch place :: others)) = _
    rw [later, next, range_succ_eq_map, map_cons, map_map, length_rotate]
    simp only [turned, Nat.zero_mod]
    rw [order]
    rfl

/-- Wherever the index stands, each call gives an enabled key, and as many calls as there are enabled keys give them all. -/
theorem keys_take_turns {env : Env} {ch : Channel} (polls : ch.channelInfo.polls = true) (some : enabled env ch ≠ [])
    (random earlier : Nat) : ∃ answers first, calls env random (earlier + (enabled env ch).length) ch = pure answers ∧
      answers.drop earlier = ((enabled env ch).rotate first).map (answer env ch) := by
  have inside : startAt env ch ≤ (range (keyCount env ch)).length := by
    rw [length_range, startAt]
    split <;> omega
  obtain ⟨first, order⟩ : ∃ first, turns env ch = (enabled env ch).rotate first := ⟨_, filter_rotate _ inside⟩
  have length : (turns env ch).length = (enabled env ch).length := by rw [order, length_rotate]
  have present : turns env ch ≠ [] := by rwa [order, Ne, rotate_eq_nil_iff]
  refine ⟨_, first + earlier, calls_take_turns random _ polls present, ?_⟩
  rw [← rotate_rotate, ← order]
  refine ext_getElem (by simp [length]) fun call here _ => ?_
  have within : call < (turns env ch).length := by simpa [length] using here
  simp [getElem_rotate, Nat.add_comm earlier, length, Nat.mod_lt, Nat.lt_of_le_of_lt (Nat.zero_le _) (length ▸ within)]

/-- Of three keys the second is disabled, and the index is out of range. -/
theorem two_keys_take_turns :
    let env : Env := ⟨fun _ => none, 0⟩
    let info : ChannelInfo :=
      { isMultiKey := true, multiKeyMode := "polling", multiKeyPollingIndex := 7,
        multiKeyStatusList := some (.save .empty (1, 2)) }
    let ch : Channel := { key := "a\nb\nc", channelInfo := info }
    enabled env ch = [0, 2] ∧ ∃ answers first, calls env 0 (5 + (enabled env ch).length) ch = pure answers ∧
      answers.drop 5 = ((enabled env ch).rotate first).map (answer env ch) :=
  ⟨by decide +kernel, keys_take_turns (by decide +kernel) (by decide +kernel) 0 5⟩

end Tokengine.Channels.KeyPolling
