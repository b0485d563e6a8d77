import Tokengine.Relay.Retry

/-! The retry loop stops: each turn uses up a pair of a group and a priority. -/

namespace Tokengine.Relay.Retry
open Channels Distribute List Option

def Before (first second : Rank) : Prop := first.1 < second.1 ∨ first.1 = second.1 ∧ first.2 < second.2

theorem Before.trans {first second third : Rank} (one : Before first second) (two : Before second third) : Before first third := by
  unfold Before at *
  omega

/-! ### One selection -/

/-- What a selection from group `i` with priority `p` on leaves for the next turn, once the counter has been increased. -/
structure Moves (retryTimes i p : Nat) (ctx after : Context) (param next : RetryParam) (rank : Rank) : Prop where
  from_start : rank = (i, p) ∨ i < rank.1 ∧ rank.2 = 0
  userGroup : after.userGroup = ctx.userGroup
  tokenGroup : next.tokenGroup = param.tokenGroup
  modelName : next.modelName = param.modelName
  reset : next.increaseRetry.resetNextTry = false
  target : (after.autoGroupIndex = some rank.1 ∧ next.increaseRetry.retry = rank.2 + 1) ∨
    (retryTimes ≤ rank.2 ∧ after.autoGroupIndex = some (rank.1 + 1) ∧ next.increaseRetry.retry = 0)

variable {param : RetryParam}

theorem increaseRetry_plain (plain : param.resetNextTry = false) :
    param.increaseRetry = { param with retry := param.retry + 1 } := by
  rw [RetryParam.increaseRetry, if_neg (by simp [plain])]

variable {ctx : Context} {retryTimes : Nat}

theorem selectAuto_moves {available : Available} {groups : List String} {i p : Nat}
    {picked : Picked} (plain : param.resetNextTry = false) (counts : param.retry = p)
    (found : (selectAuto retryTimes available i p groups ctx param).1 = some picked) : picked.rank.1 < i + groups.length ∧
      Moves retryTimes i p ctx (selectAuto retryTimes available i p groups ctx param).2.1 param
        (selectAuto retryTimes available i p groups ctx param).2.2 picked.rank := by
  induction groups generalizing i p ctx param with
  | nil => cases found
  | cons group rest tail =>
    unfold selectAuto at found ⊢
    cases answer : (available group param.modelName p).toOption.bind id with
    | none =>
      simp only [answer] at found ⊢
      obtain ⟨inside, moves⟩ :=
        @tail { param with retry := 0 } { ctx with autoGroupIndex := some (i + 1) } (i + 1) 0 plain rfl found
      rw [length_cons]
      refine ⟨by omega, ⟨?_, moves.userGroup, moves.tokenGroup, moves.modelName, moves.reset, moves.target⟩⟩
      rcases moves.from_start with same | ⟨later, zero⟩
      · exact .inr (by rw [same]; exact ⟨Nat.lt_succ_self i, rfl⟩)
      · exact .inr ⟨by omega, zero⟩
    | some ch =>
      simp only [answer] at found ⊢
      by_cases exhausted : ctx.tokenCrossGroupRetry = true ∧ retryTimes ≤ p
      · simp only [if_pos exhausted] at found ⊢
        cases found
        exact ⟨Nat.lt_add_of_pos_right (Nat.succ_pos _), .inl rfl, rfl, rfl, rfl, rfl, .inr ⟨exhausted.2, rfl, rfl⟩⟩
      · simp only [if_neg exhausted] at found ⊢
        cases found
        refine ⟨Nat.lt_add_of_pos_right (Nat.succ_pos _), .inl rfl, rfl, rfl, rfl, ?_, .inl ⟨rfl, ?_⟩⟩
        · rw [increaseRetry_plain plain]
          exact plain
        · rw [increaseRetry_plain plain, ← counts]

/-! ### The pairs that are left -/

def Loop.head (loop : Loop) : Rank := (loop.ctx.autoGroupIndex.getD 0, loop.param.retry)

def Loop.advance (loop : Loop) : Loop := { loop with param := loop.param.increaseRetry }

def Loop.potential (cfg : GroupSettings) (policy : Policy) (loop : Loop) : Nat :=
  if loop.param.tokenGroup = "auto" then
    (policy.retryTimes + 1) * ((getUserAutoGroup cfg loop.ctx.userGroup).length - loop.head.1) - loop.head.2
  else policy.retryTimes + 1 - loop.head.2

theorem row_le {count groups i j : Nat} (later : i < j) (inside : i < groups) :
    count * (groups - j) + count ≤ count * (groups - i) := by
  have fewer : groups - j + 1 ≤ groups - i := by omega
  calc count * (groups - j) + count = count * (groups - j + 1) := by rw [Nat.mul_add, Nat.mul_one]
    _ ≤ count * (groups - i) := Nat.mul_le_mul_left count fewer

variable {rank : Rank}

theorem pairs_used {groups : Nat} {head next : Rank} (allowed : head.2 ≤ retryTimes) (inside : rank.1 < groups)
    (from_head : rank = head ∨ head.1 < rank.1 ∧ rank.2 = 0)
    (target : next = (rank.1, rank.2 + 1) ∨ retryTimes ≤ rank.2 ∧ next = (rank.1 + 1, 0)) :
    (retryTimes + 1) * (groups - next.1) - next.2 + 1 ≤ (retryTimes + 1) * (groups - head.1) - head.2 := by
  have rest : (retryTimes + 1) * (groups - next.1) - next.2 + 1 ≤ (retryTimes + 1) * (groups - rank.1) - rank.2 := by
    have row : (retryTimes + 1) * (groups - (rank.1 + 1)) + (retryTimes + 1) ≤ (retryTimes + 1) * (groups - rank.1) :=
      row_le (Nat.lt_succ_self rank.1) inside
    have small : rank.2 ≤ retryTimes := by
      rcases from_head with rfl | ⟨_, zero⟩
      · exact allowed
      · omega
    rcases target with rfl | ⟨_, rfl⟩ <;> simp only <;> omega
  rcases from_head with rfl | ⟨later, zero⟩
  · exact rest
  · have row : (retryTimes + 1) * (groups - rank.1) + (retryTimes + 1) ≤ (retryTimes + 1) * (groups - head.1) :=
      row_le later (later.trans inside)
    omega

structure Selected (cfg : GroupSettings) (policy : Policy) (loop next : Loop) (rank : Rank) : Prop where
  ranks : next.ranks = loop.ranks ++ [rank]
  attempts : next.attempts = loop.attempts
  tokenGroup : next.param.tokenGroup = loop.param.tokenGroup
  from_head : loop.param.tokenGroup = "auto" → rank = loop.head ∨ Before loop.head rank
  ahead : loop.param.tokenGroup = "auto" → Before rank next.advance.head
  reset : next.advance.param.resetNextTry = false
  uses : next.advance.potential cfg policy + 1 ≤ loop.potential cfg policy

variable {cfg : GroupSettings}

theorem getUserAutoGroup_nil (none : cfg.autoGroups = []) (userGroup : String) :
    getUserAutoGroup cfg userGroup = [] := by
  rw [getUserAutoGroup, none]
  rfl

theorem advance_tokenGroup (loop : Loop) : loop.advance.param.tokenGroup = loop.param.tokenGroup := by
  unfold Loop.advance RetryParam.increaseRetry
  split <;> rfl

/-- The state after `CacheGetRandomSatisfiedChannel` in the loop. -/
def Loop.withSelection (loop : Loop) (ctx : Context) (param : RetryParam) (rank : Rank) : Loop :=
  { loop with ctx := ctx, param := param, ranks := loop.ranks ++ [rank] }

section

variable {policy : Policy} {available : Available} {loop : Loop} {picked : Picked}

theorem found_moves {after : Context} {next : RetryParam} (auto : param.tokenGroup = "auto")
    (plain : param.resetNextTry = false)
    (found : cacheGetRandomSatisfiedChannel cfg retryTimes available ctx param = (.ok (some picked), after, next)) :
    picked.rank.1 < (getUserAutoGroup cfg ctx.userGroup).length ∧
      Moves retryTimes (ctx.autoGroupIndex.getD 0) param.retry ctx after param next picked.rank := by
  unfold cacheGetRandomSatisfiedChannel at found
  rw [if_pos auto] at found
  by_cases none : cfg.autoGroups = []
  · rw [if_pos none] at found
    cases (Prod.mk.inj found).1
  rw [if_neg none] at found
  simp only [Prod.mk.injEq, Except.ok.injEq] at found
  obtain ⟨chosen, left⟩ := found
  obtain ⟨inside, moves⟩ := selectAuto_moves plain rfl chosen
  rw [left] at moves
  refine ⟨?_, moves⟩
  have atLeast : ctx.autoGroupIndex.getD 0 ≤ picked.rank.1 := by
    rcases moves.from_start with same | ⟨later, _⟩
    · rw [same]
    · exact later.le
  rw [length_drop] at inside
  omega

variable (plain : loop.param.resetNextTry = false) (allowed : loop.param.retry ≤ policy.retryTimes)
  (found : cacheGetRandomSatisfiedChannel cfg policy.retryTimes available loop.ctx loop.param = (.ok (some picked), ctx, param))
include plain allowed found

theorem selected_auto (auto : loop.param.tokenGroup = "auto") :
    Selected cfg policy loop (loop.withSelection ctx param picked.rank) picked.rank := by
  obtain ⟨bounded, moves⟩ := found_moves auto plain found
  have target : (loop.withSelection ctx param picked.rank).advance.head = (picked.rank.1, picked.rank.2 + 1) ∨
      policy.retryTimes ≤ picked.rank.2 ∧
        (loop.withSelection ctx param picked.rank).advance.head = (picked.rank.1 + 1, 0) := by
    rcases moves.target with ⟨idx, retry⟩ | ⟨exhausted, idx, retry⟩
    · exact .inl (Prod.ext (by simp [Loop.head, Loop.advance, Loop.withSelection, idx]) retry)
    · exact .inr ⟨exhausted, Prod.ext (by simp [Loop.head, Loop.advance, Loop.withSelection, idx]) retry⟩
  have group : (loop.withSelection ctx param picked.rank).advance.param.tokenGroup = "auto" :=
    (advance_tokenGroup _).trans (moves.tokenGroup.trans auto)
  have userGroup : (loop.withSelection ctx param picked.rank).advance.ctx.userGroup = loop.ctx.userGroup := moves.userGroup
  refine ⟨rfl, rfl, moves.tokenGroup, fun _ => ?_, fun _ => ?_, moves.reset, ?_⟩
  · exact moves.from_start.imp_right fun later => .inl later.1
  · rcases target with next | ⟨_, next⟩
    · rw [next]
      exact .inr ⟨rfl, Nat.lt_succ_self _⟩
    · rw [next]
      exact .inl (Nat.lt_succ_self _)
  · unfold Loop.potential
    rw [if_pos group, if_pos auto, userGroup]
    exact pairs_used allowed bounded moves.from_start target

theorem selected_group (group : loop.param.tokenGroup ≠ "auto") :
    Selected cfg policy loop (loop.withSelection ctx param picked.rank) picked.rank := by
  unfold cacheGetRandomSatisfiedChannel at found
  rw [if_neg group] at found
  simp only [Prod.mk.injEq] at found
  obtain ⟨_, sameCtx, sameParam⟩ := found
  subst sameCtx sameParam
  have next : (loop.withSelection loop.ctx loop.param picked.rank).advance.param = { loop.param with retry := loop.param.retry + 1 } :=
    increaseRetry_plain plain
  refine ⟨rfl, rfl, rfl, fun auto => absurd auto group, fun auto => absurd auto group, ?_, ?_⟩
  · rw [next]
    exact plain
  unfold Loop.potential Loop.head
  rw [if_neg group, next, if_neg group]
  simp only
  omega

theorem selected_of_found : Selected cfg policy loop (loop.withSelection ctx param picked.rank) picked.rank := by
  by_cases auto : loop.param.tokenGroup = "auto"
  · exact selected_auto plain allowed found auto
  · exact selected_group plain allowed found auto

end

variable {policy : Policy}

/-! ### The whole loop -/

structure Ordered (loop : Loop) : Prop where
  sorted : loop.ranks.Pairwise Before
  ahead : ∀ rank ∈ loop.ranks, Before rank loop.head

variable {loop next : Loop}

section

variable (selected : Selected cfg policy loop next rank) (auto : loop.param.tokenGroup = "auto") (before : Ordered loop)
include selected auto before

theorem Selected.sorted : next.ranks.Pairwise Before ∧ ∀ earlier ∈ next.ranks, earlier = rank ∨ Before earlier rank := by
  have later : ∀ earlier ∈ loop.ranks, Before earlier rank := by
    intro earlier mem
    rcases selected.from_head auto with same | after
    · exact same ▸ before.ahead earlier mem
    · exact (before.ahead earlier mem).trans after
  rw [selected.ranks]
  constructor
  · rw [pairwise_append]
    refine ⟨before.sorted, pairwise_singleton _ _, fun earlier mem last single => ?_⟩
    rw [mem_singleton.mp single]
    exact later earlier mem
  · intro earlier mem
    rcases mem_append.mp mem with mem | single
    · exact .inr (later earlier mem)
    · exact .inl (mem_singleton.mp single)

theorem Selected.ordered : Ordered next.advance := by
  obtain ⟨sorted, upTo⟩ := selected.sorted auto before
  refine ⟨sorted, fun earlier mem => ?_⟩
  rcases upTo earlier mem with rfl | earlier
  · exact selected.ahead auto
  · exact earlier.trans (selected.ahead auto)

end

def Loop.ran (loop : Loop) (turn : Turn) : Loop :=
  { loop with hasChannelMeta := true, newAPIError := turn.error, attempts := loop.attempts ++ [turn.output] }

theorem attempt_cases (policy : Policy) (turn : Turn) (loop : Loop) :
    attempt policy turn loop = .stop (loop.ran turn) ∨ attempt policy turn loop = .again (loop.ran turn) := by
  simp only [attempt]
  split
  · exact .inl rfl
  split
  · exact .inr rfl
  · exact .inl rfl

section

variable (turn : Turn) (running : loop.hasChannelMeta = true) (plain : loop.param.resetNextTry = false)
  (allowed : loop.param.retry ≤ policy.retryTimes)
include running plain allowed

/-- What `getChannel` does in a turn after the first one. -/
theorem getChannel_spec : (∃ err next, getChannel cfg policy turn loop = (.error err, next) ∧ next.attempts = loop.attempts ∧
      (next.ranks = loop.ranks ∨ ∃ rank, Selected cfg policy loop next rank)) ∨
    ∃ next rank, getChannel cfg policy turn loop = (.ok (), next) ∧ Selected cfg policy loop next rank := by
  unfold getChannel
  rw [if_neg (by simp [running])]
  rcases found : cacheGetRandomSatisfiedChannel cfg policy.retryTimes turn.available loop.ctx loop.param with ⟨res, ctx, param⟩
  cases res with
  | error e => exact .inl ⟨_, _, rfl, rfl, .inl rfl⟩
  | ok picked =>
    cases picked with
    | none => exact .inl ⟨_, _, rfl, rfl, .inl rfl⟩
    | some picked =>
      have selected := selected_of_found plain allowed found
      simp only
      cases turn.setupContextForSelectedChannel picked.channel loop.param.modelName with
      | some err => exact .inl ⟨_, _, rfl, rfl, .inr ⟨picked.rank, selected⟩⟩
      | none => exact .inr ⟨_, picked.rank, rfl, selected⟩

theorem turnOnce_spec : (∃ ended, turnOnce cfg policy turn loop = .stop ended ∧
      ended.attempts.length ≤ loop.attempts.length + loop.potential cfg policy ∧
      (loop.param.tokenGroup = "auto" → Ordered loop → ended.ranks.Pairwise Before)) ∨
    ∃ next rank, turnOnce cfg policy turn loop = .again (next.ran turn) ∧ Selected cfg policy loop next rank := by
  unfold turnOnce
  rcases getChannel_spec turn running plain allowed with ⟨err, next, failed, attempts, ranks⟩ | ⟨next, rank, found, selected⟩
  · left
    rw [failed]
    refine ⟨_, rfl, by simp [attempts], fun auto ordered => ?_⟩
    rcases ranks with same | ⟨rank, selected⟩
    · simp only [same]
      exact ordered.sorted
    · exact (selected.sorted auto ordered).1
  · rw [found]
    simp only
    have uses := selected.uses
    cases turn.bodyError with
    | some err =>
      refine .inl ⟨_, rfl, by simp [selected.attempts], fun auto ordered => (selected.sorted auto ordered).1⟩
    | none =>
      rcases attempt_cases policy turn next with stops | again
      · refine .inl ⟨_, stops, ?_, fun auto ordered => (selected.sorted auto ordered).1⟩
        simp only [Loop.ran, selected.attempts, length_append, length_singleton]
        omega
      · exact .inr ⟨next, rank, again, selected⟩

end

theorem relayLoop_ends {world : Nat → Turn} {fuel now : Nat}
    (running : loop.hasChannelMeta = true) (plain : loop.param.resetNextTry = false) (enough : loop.potential cfg policy < fuel) :
    ∃ ended, relayLoop cfg policy world fuel now loop = some ended ∧
      ended.attempts.length ≤ loop.attempts.length + loop.potential cfg policy ∧
      (loop.param.tokenGroup = "auto" → Ordered loop → ended.ranks.Pairwise Before) := by
  induction fuel generalizing now loop with
  | zero => exact absurd enough (Nat.not_lt_zero _)
  | succ fuel tail =>
    unfold relayLoop
    split
    next allowed =>
      rcases turnOnce_spec (world now) running plain allowed with ⟨ended, stops, attempts, sorted⟩ | ⟨next, rank, again, selected⟩
      · rw [stops]
        exact ⟨ended, rfl, attempts, sorted⟩
      rw [again]
      have uses : (next.ran (world now)).advance.potential cfg policy + 1 ≤ loop.potential cfg policy := selected.uses
      have group : (next.ran (world now)).advance.param.tokenGroup = loop.param.tokenGroup :=
        (advance_tokenGroup _).trans selected.tokenGroup
      obtain ⟨ended, ends, attempts, sorted⟩ :=
        @tail (next.ran (world now)).advance (now + 1) rfl selected.reset (by omega)
      refine ⟨ended, ends, ?_, fun auto ordered => ?_⟩
      · have one : (next.ran (world now)).advance.attempts.length = loop.attempts.length + 1 := by
          simp [Loop.ran, Loop.advance, selected.attempts]
        omega
      · have following := selected.ordered auto ordered
        exact sorted (group.trans auto) ⟨following.sorted, following.ahead⟩
    · exact ⟨loop, rfl, Nat.le_add_right _ _, fun _ ordered => ordered.sorted⟩

/-! ### From the distributor on -/

inductive FirstChoice
  /-- The distributor has searched the groups. -/
  | searched (available : Available)
  /-- The affinity rules prefer a channel, in the automatic group of this index. -/
  | preferred (idx : Nat)
  /-- The token names the channel. -/
  | named

def Loop.start (ctx : Context) (tokenGroup model : String) (ranks : List Rank) : Loop where
  ctx := ctx
  param := { tokenGroup := tokenGroup, modelName := model }
  hasChannelMeta := false
  newAPIError := none
  ranks := ranks
  attempts := []

def begin (cfg : GroupSettings) (policy : Policy) (ctx : Context) (tokenGroup model : String) : FirstChoice → Option Loop
  | .searched available =>
    match cacheGetRandomSatisfiedChannel cfg policy.retryTimes available ctx
        { tokenGroup := ctx.usingGroup, modelName := model } with
    | (.ok (some picked), after, _) => some (Loop.start after tokenGroup model [picked.rank])
    | _ => none
  | .preferred idx =>
    if ctx.usingGroup = "auto" then
      ((getUserAutoGroup cfg ctx.userGroup)[idx]?).map fun group =>
        Loop.start { ctx with autoGroup := some group } tokenGroup model [(idx, 0)]
    else some (Loop.start ctx tokenGroup model [(0, 0)])
  | .named => some (Loop.start ctx tokenGroup model [])

variable {gateway : Gateway} {model : String}

variable {after : Context}

theorem preferred_of_distribute {preferred : Option Selection}
    (preference : preferredChannel cfg gateway model ctx = .ok (preferred, after)) (tokenGroup : String) :
    (preferred = none → after = ctx) ∧ (preferred ≠ none →
      ∃ choice loop, begin cfg policy ctx tokenGroup model choice = some loop ∧ loop.ctx = after) := by
  unfold preferredChannel at preference
  repeat' split at preference
  all_goals cases preference
  -- all branches but two choose nothing
  any_goals exact ⟨fun _ => rfl, absurd rfl⟩
  next auto _ group found =>
    obtain ⟨idx, inside, same⟩ := getElem_of_mem (mem_of_find?_eq_some found)
    refine ⟨fun none => absurd none (some_ne_none _), fun _ =>
      ⟨.preferred idx, Loop.start _ tokenGroup model [(idx, 0)], ?_, rfl⟩⟩
    rw [begin, if_pos auto, List.getElem?_eq_some_iff.mpr ⟨inside, same⟩]
    rfl
  next other _ => exact ⟨fun none => absurd none (some_ne_none _), fun _ => ⟨.preferred 0, _, if_neg other, rfl⟩⟩

theorem begin_of_selectChannel {selection : Selection} (retryTimes : policy.retryTimes = gateway.retryTimes)
    (selected : selectChannel cfg gateway model ctx = .ok (selection, after)) (tokenGroup : String) :
    ∃ choice loop, begin cfg policy ctx tokenGroup model choice = some loop ∧ loop.ctx = after := by
  unfold selectChannel at selected
  cases preference : preferredChannel cfg gateway model ctx with
  | error e =>
    rw [preference] at selected
    cases selected
  | ok chosen =>
    obtain ⟨preferred, middle⟩ := chosen
    obtain ⟨same, begins⟩ := preferred_of_distribute preference tokenGroup
    rw [preference] at selected
    cases preferred with
    | some preferred =>
      cases selected
      exact begins (some_ne_none _)
    | none =>
      cases same rfl
      simp only [bind, Except.bind] at selected
      cases search : cacheGetRandomSatisfiedChannel cfg gateway.retryTimes gateway.getRandomSatisfiedChannel ctx
        { tokenGroup := ctx.usingGroup, modelName := model } with
      | mk found rest =>
      rw [search] at selected
      rcases found with e | (_ | picked) <;> cases selected
      refine ⟨.searched gateway.getRandomSatisfiedChannel, Loop.start rest.1 tokenGroup model [picked.rank], ?_, rfl⟩
      simp only [begin, retryTimes, search]

def maxAttempts (cfg : GroupSettings) (policy : Policy) (ctx : Context) : Nat :=
  (policy.retryTimes + 1) * max 1 (getUserAutoGroup cfg ctx.userGroup).length

theorem le_maxAttempts (cfg : GroupSettings) (policy : Policy) (ctx : Context) :
    policy.retryTimes + 1 ≤ maxAttempts cfg policy ctx := by
  have groups : 1 ≤ max 1 (getUserAutoGroup cfg ctx.userGroup).length := Nat.le_max_left _ _
  calc policy.retryTimes + 1 = (policy.retryTimes + 1) * 1 := by rw [Nat.mul_one]
    _ ≤ maxAttempts cfg policy ctx := Nat.mul_le_mul_left _ groups

section Start

variable {world : Nat → Turn} {tokenGroup : String} {ranks : List Rank}

theorem attempt_again {turn : Turn} {loop : Loop} (again : attempt policy turn loop = .again next) :
    policy.skipRetryAfterAffinity = false ∧ next = loop.ran turn := by
  simp only [attempt] at again
  split at again
  · cases again
  · split at again
    next retries =>
      cases again
      refine ⟨?_, rfl⟩
      unfold shouldRetry at retries
      split at retries
      · cases retries
      next goes => simpa using goes
    · cases again

/-- The first turn takes no pair: the loop ends, or it goes on with the head of the context. -/
theorem firstTurn_cases (fuel : Nat) :
    (∃ ended, relayLoop cfg policy world (fuel + 1) 0 (Loop.start ctx tokenGroup model ranks) = some ended ∧
      ended.attempts.length ≤ 1 ∧ ended.ranks = ranks) ∨ policy.skipRetryAfterAffinity = false ∧
      relayLoop cfg policy world (fuel + 1) 0 (Loop.start ctx tokenGroup model ranks) =
        relayLoop cfg policy world fuel 1 ((Loop.start ctx tokenGroup model ranks).ran (world 0)).advance := by
  have allowed : (Loop.start ctx tokenGroup model ranks).param.retry ≤ policy.retryTimes := Nat.zero_le _
  have first : getChannel cfg policy (world 0) (Loop.start ctx tokenGroup model ranks) =
      (.ok (), Loop.start ctx tokenGroup model ranks) := rfl
  rw [relayLoop, if_pos allowed, turnOnce, first]
  simp only
  cases (world 0).bodyError with
  | some err => exact .inl ⟨_, rfl, Nat.zero_le _, rfl⟩
  | none =>
    cases verdict : attempt policy (world 0) (Loop.start ctx tokenGroup model ranks) with
    | stop ended =>
      refine .inl ⟨ended, rfl, ?_⟩
      rcases attempt_cases policy (world 0) (Loop.start ctx tokenGroup model ranks) with stops | again
      · cases verdict.symm.trans stops
        exact ⟨Nat.le_refl _, rfl⟩
      · cases verdict.symm.trans again
    | again next =>
      obtain ⟨goes, rfl⟩ := attempt_again verdict
      exact .inr ⟨goes, rfl⟩

theorem potential_first (turn : Turn) :
    ((Loop.start ctx tokenGroup model ranks).ran turn).advance.potential cfg policy + 1 ≤ maxAttempts cfg policy ctx := by
  have least := le_maxAttempts cfg policy ctx
  let loop := ((Loop.start ctx tokenGroup model ranks).ran turn).advance
  change loop.potential cfg policy + 1 ≤ _
  unfold Loop.potential
  split
  · have rows : (policy.retryTimes + 1) *
        ((getUserAutoGroup cfg ctx.userGroup).length - ctx.autoGroupIndex.getD 0) ≤ maxAttempts cfg policy ctx := by
      apply Nat.mul_le_mul_left
      exact (Nat.sub_le _ _).trans (Nat.le_max_right _ _)
    have head : loop.head = (ctx.autoGroupIndex.getD 0, 1) := rfl
    have group : loop.ctx.userGroup = ctx.userGroup := rfl
    rw [head, group]
    simp only
    omega
  · have head : loop.head.2 = 1 := rfl
    omega

theorem start_ends :
    ∃ ended, relayLoop cfg policy world (maxAttempts cfg policy ctx + 1) 0 (Loop.start ctx tokenGroup model ranks) = some ended ∧
      ended.attempts.length ≤ maxAttempts cfg policy ctx ∧
      (tokenGroup = "auto" → ranks.Pairwise Before → (∀ rank ∈ ranks, Before rank (ctx.autoGroupIndex.getD 0, 1)) →
        ended.ranks.Pairwise Before) := by
  have least := le_maxAttempts cfg policy ctx
  rcases @firstTurn_cases ctx cfg policy model world tokenGroup ranks (maxAttempts cfg policy ctx) with
    ⟨ended, ends, attempts, same⟩ | ⟨_, goesOn⟩
  · exact ⟨ended, ends, by omega, fun _ sorted _ => same ▸ sorted⟩
  have left := @potential_first ctx cfg policy model tokenGroup ranks (world 0)
  obtain ⟨ended, ends, attempts, sorted⟩ := @relayLoop_ends cfg policy
    ((Loop.start ctx tokenGroup model ranks).ran (world 0)).advance world (maxAttempts cfg policy ctx) 1 rfl rfl (by omega)
  have one : ((Loop.start ctx tokenGroup model ranks).ran (world 0)).advance.attempts.length = 1 := rfl
  exact ⟨ended, goesOn.trans ends, by omega, fun auto inOrder ahead => sorted auto ⟨inOrder, ahead⟩⟩

theorem start_ends_at_once (single : policy.retryTimes = 0 ∨ policy.skipRetryAfterAffinity = true) {ended : Loop} {fuel : Nat}
    (ends : relayLoop cfg policy world (fuel + 1) 0 (Loop.start ctx tokenGroup model ranks) = some ended) :
    ended.ranks = ranks := by
  rcases @firstTurn_cases ctx cfg policy model world tokenGroup ranks fuel with ⟨only, stops, _, same⟩ | ⟨goes, goesOn⟩
  · cases ends.symm.trans stops
    exact same
  have none : policy.retryTimes = 0 := by
    rcases single with none | skips
    · exact none
    · rw [goes] at skips
      cases skips
  rw [goesOn] at ends
  have passed : ¬((Loop.start ctx tokenGroup model ranks).ran (world 0)).advance.param.retry ≤ policy.retryTimes := by
    show ¬1 ≤ policy.retryTimes
    omega
  cases fuel with
  | zero => cases ends
  | succ fuel =>
    rw [relayLoop, if_neg passed] at ends
    cases ends
    rfl

end Start

theorem begin_spec {tokenGroup : String} {choice : FirstChoice}
    {loop : Loop} (fresh : ctx.autoGroupIndex = none) (begins : begin cfg policy ctx tokenGroup model choice = some loop) :
    ∃ after ranks, loop = Loop.start after tokenGroup model ranks ∧ after.userGroup = ctx.userGroup ∧
      (ctx.usingGroup = "auto" → ranks.Pairwise Before ∧
        ((∀ idx, choice = .preferred idx → idx = 0) → ∀ rank ∈ ranks, Before rank (after.autoGroupIndex.getD 0, 1))) := by
  cases choice with
  | searched available =>
    simp only [begin] at begins
    split at begins
    next picked after _ found =>
      cases begins
      by_cases auto : ctx.usingGroup = "auto"
      · obtain ⟨_, moves⟩ := found_moves auto rfl found
        have zero : picked.rank.2 = 0 := by
          rcases moves.from_start with same | ⟨_, zero⟩
          · rw [same]
          · exact zero
        refine ⟨after, [picked.rank], rfl, moves.userGroup, fun _ => ⟨pairwise_singleton _ _, fun _ rank single => ?_⟩⟩
        cases mem_singleton.mp single
        rcases moves.target with ⟨idx, _⟩ | ⟨_, idx, _⟩
        · rw [idx]
          exact .inr ⟨rfl, by rw [zero]; exact Nat.one_pos⟩
        · rw [idx]
          exact .inl (Nat.lt_succ_self _)
      · have same : after = ctx := by
          unfold cacheGetRandomSatisfiedChannel at found
          rw [if_neg auto] at found
          exact (congrArg (fun res => res.2.1) found).symm
        exact ⟨after, [picked.rank], rfl, by rw [same], fun isAuto => absurd isAuto auto⟩
    · cases begins
  | preferred idx =>
    simp only [begin] at begins
    split at begins
    · obtain ⟨group, _, rfl⟩ := map_eq_some_iff.mp begins
      refine ⟨_, _, rfl, rfl, fun _ => ⟨pairwise_singleton _ _, fun first rank single => ?_⟩⟩
      cases mem_singleton.mp single
      have zero := first idx rfl
      refine .inr ⟨?_, Nat.one_pos⟩
      simp [zero, fresh]
    next other =>
      cases begins
      exact ⟨ctx, _, rfl, rfl, fun auto => absurd auto other⟩
  | named =>
    cases begins
    exact ⟨ctx, [], rfl, rfl, fun _ => ⟨List.Pairwise.nil, nofun⟩⟩

def failsOnce (now : Nat) : Turn where
  available := fun _ _ _ => .ok (some {})
  setupContextForSelectedChannel := fun _ _ => none
  bodyError := none
  output := []
  error := if now = 0 then some ⟨"", "channel:invalid_key", false, 500⟩ else none

theorem shouldRetry_channelError {err : NewAPIError} (goes : policy.skipRetryAfterAffinity = false)
    (ch : isChannelError err = true) (retryTimes : Int) : shouldRetry policy err retryTimes = true := by
  rw [shouldRetry, if_neg (by simp [goes]), if_pos ch]

/-- Without an index in the context, the second turn searches from the first group on, with priority retry one. -/
theorem second_selection {ranks : List Rank}
    (fresh : ctx.autoGroupIndex = none) (groups : getUserAutoGroup cfg ctx.userGroup ≠ [])
    (retries : policy.retryTimes ≠ 0) (goes : policy.skipRetryAfterAffinity = false) (fuel : Nat) :
    ∃ ended, relayLoop cfg policy failsOnce (fuel + 2) 0 (Loop.start ctx "auto" model ranks) = some ended ∧
      ended.ranks = ranks ++ [(0, 1)] := by
  let loop := Loop.start ctx "auto" model ranks
  have someGroups : cfg.autoGroups ≠ [] := fun none => groups (getUserAutoGroup_nil none ctx.userGroup)
  obtain ⟨group, rest, listed⟩ := exists_cons_of_ne_nil groups
  have first : turnOnce cfg policy (failsOnce 0) loop =
      .again (loop.ran (failsOnce 0)) :=
    if_pos (shouldRetry_channelError goes (by decide +kernel) _)
  have found : ∃ next, getChannel cfg policy (failsOnce 1) (loop.ran (failsOnce 0)).advance =
      (.ok (), next) ∧ next.ranks = ranks ++ [(0, 1)] := by
    simp only [getChannel, Loop.ran, Loop.advance, loop, Loop.start, cacheGetRandomSatisfiedChannel, if_true, someGroups, if_false, fresh,
      getD_none, drop_zero, listed, selectAuto, failsOnce, RetryParam.increaseRetry, Bool.false_eq_true,
      Except.toOption, bind_some, id, reduceCtorEq]
    by_cases exhausted : ctx.tokenCrossGroupRetry = true ∧ policy.retryTimes ≤ 0 + 1
    · rw [if_pos exhausted]
      exact ⟨_, rfl, rfl⟩
    · rw [if_neg exhausted]
      exact ⟨_, rfl, rfl⟩
  obtain ⟨next, found, record⟩ := found
  have second : turnOnce cfg policy (failsOnce 1) (loop.ran (failsOnce 0)).advance =
      .stop (next.ran (failsOnce 1)) := by
    rw [turnOnce, found]
    rfl
  refine ⟨next.ran (failsOnce 1), ?_, record⟩
  have allowed : loop.param.retry ≤ policy.retryTimes := Nat.zero_le _
  have again : (loop.ran (failsOnce 0)).advance.param.retry ≤ policy.retryTimes :=
    Nat.one_le_iff_ne_zero.mpr retries
  calc relayLoop cfg policy failsOnce (fuel + 2) 0 loop
      = relayLoop cfg policy failsOnce (fuel + 1) 1 (loop.ran (failsOnce 0)).advance := by
        rw [relayLoop, if_pos allowed, first]
        rfl
    _ = some (next.ran (failsOnce 1)) := by
        rw [relayLoop, if_pos again, second]

/-- The loop ends within its bound. In automatic mode the selections go up in every run, unless the affinity rule has preferred
a channel of a later group and a retry is possible: the rule leaves the index of its group out of the context. -/
theorem retry_loop_progresses {cfg : GroupSettings} {policy : Policy} {ctx : Context} {tokenGroup model : String}
    {choice : FirstChoice} {loop : Loop} (fresh : ctx.autoGroupIndex = none)
    (begins : begin cfg policy ctx tokenGroup model choice = some loop) :
    (∀ world, ∃ ended, relayLoop cfg policy world (maxAttempts cfg policy ctx + 1) 0 loop = some ended ∧
      ended.attempts.length ≤ maxAttempts cfg policy ctx) ∧ (ctx.usingGroup = "auto" → tokenGroup = "auto" →
      ((∀ world ended, relayLoop cfg policy world (maxAttempts cfg policy ctx + 1) 0 loop = some ended →
          ended.ranks.Pairwise Before) ↔
        ∀ idx, choice = .preferred idx → idx = 0 ∨ policy.retryTimes = 0 ∨ policy.skipRetryAfterAffinity = true)) := by
  obtain ⟨after, ranks, rfl, sameGroup, first⟩ := begin_spec fresh begins
  have sameBound : maxAttempts cfg policy after = maxAttempts cfg policy ctx := by
    rw [maxAttempts, maxAttempts, sameGroup]
  constructor
  · intro world
    obtain ⟨ended, ends, bounded, _⟩ := @start_ends after cfg policy model world tokenGroup ranks
    rw [sameBound] at ends bounded
    exact ⟨ended, ends, bounded⟩
  · intro auto tokenAuto
    subst tokenAuto
    obtain ⟨sorted, ahead⟩ := first auto
    constructor
    · intro ordered idx chosen
      by_contra exposed
      rw [not_or, not_or, Bool.not_eq_true] at exposed
      obtain ⟨later, retries, goes⟩ := exposed
      subst chosen
      rw [begin, if_pos auto] at begins
      obtain ⟨group, listed, started⟩ := map_eq_some_iff.mp begins
      have groups : getUserAutoGroup cfg ctx.userGroup ≠ [] := by
        intro none
        rw [none] at listed
        cases listed
      have least := le_maxAttempts cfg policy ctx
      obtain ⟨ended, ends, record⟩ := @second_selection { ctx with autoGroup := some group } cfg policy model [(idx, 0)]
        fresh groups retries goes (maxAttempts cfg policy ctx - 1)
      rw [show maxAttempts cfg policy ctx - 1 + 2 = maxAttempts cfg policy ctx + 1 by omega, started] at ends
      have back := ordered failsOnce ended ends
      rw [record, singleton_append, pairwise_pair] at back
      rcases back with less | ⟨same, _⟩
      · exact absurd less (Nat.not_lt_zero idx)
      · exact later same
    · intro holds world ended ends
      by_cases inFirst : ∀ idx, choice = .preferred idx → idx = 0
      · obtain ⟨other, stops, _, ordered⟩ := @start_ends after cfg policy model world "auto" ranks
        rw [sameBound, ends] at stops
        cases stops
        exact ordered rfl sorted (ahead inFirst)
      · have single : policy.retryTimes = 0 ∨ policy.skipRetryAfterAffinity = true := by
          by_contra exposed
          apply inFirst
          intro idx chosen
          exact (holds idx chosen).resolve_right exposed
        rw [start_ends_at_once single ends]
        exact sorted

def twoGroups : GroupSettings where
  userUsableGroups := (Table.empty.save ("a", "")).save ("b", "")
  groupSpecialUsableGroup := .empty
  groupRatio := ["a", "b"]
  autoGroups := ["a", "b"]

def crossGroup : Context where
  id := 1
  userGroup := "a"
  usingGroup := "auto"
  tokenGroup := "auto"
  tokenModelLimit := none
  tokenCrossGroupRetry := true
  specificChannelId := none

def threeRetries : Policy := ⟨3, [(500, 599)], false, false⟩

theorem groups_of_crossGroup : getUserAutoGroup twoGroups crossGroup.userGroup = ["a", "b"] := by decide +kernel

theorem retry_loop_progresses_two_groups : ∃ ended, relayLoop twoGroups threeRetries failsOnce 9 0
        (Loop.start { crossGroup with autoGroup := some "a" } "auto" "m" [(0, 0)]) = some ended ∧
      ended.attempts.length ≤ 8 ∧ ended.ranks.Pairwise Before := by
  have begins : begin twoGroups threeRetries crossGroup "auto" "m" (.preferred 0) =
      some (Loop.start { crossGroup with autoGroup := some "a" } "auto" "m" [(0, 0)]) := by
    rfl
  have progresses := @retry_loop_progresses twoGroups threeRetries crossGroup "auto" "m" (.preferred 0)
    (Loop.start { crossGroup with autoGroup := some "a" } "auto" "m" [(0, 0)]) rfl begins
  have bound : maxAttempts twoGroups threeRetries crossGroup = 8 := by
    rfl
  obtain ⟨ended, ends, bounded⟩ := progresses.1 failsOnce
  have ordered := (progresses.2 rfl rfl).mpr (fun idx chosen => .inl (FirstChoice.preferred.inj chosen).symm) failsOnce ended ends
  exact ⟨ended, ends, bounded, ordered⟩

def affinityGateway : Gateway where
  translate key _ := key
  isModelBlacklisted _ := false
  isModelSpecifiedForUser _ _ := false
  getChannelById _ := none
  getPreferredChannelByAffinity _ _ := some 2
  cacheGetChannel id := some { id := id, status := channelStatusEnabled, group := "b", models := "m" }
  shouldSkipRetryAfterChannelAffinityFailure := false
  isChannelEnabledForGroupModel group _ _ := group = "b"
  getRandomSatisfiedChannel group model _ := .ok (some { id := 1, status := channelStatusEnabled, group := group, models := model })
  retryTimes := 3
  setupContextForSelectedChannel _ _ := none

/-- The preferred channel fails, and the retry goes back to the first group, where it skips the first priority. -/
theorem affinity_retry_goes_back :
    ∃ loop, (selectChannel twoGroups affinityGateway "m" crossGroup).toOption.map Prod.snd = some loop.ctx ∧
      begin twoGroups threeRetries crossGroup "auto" "m" (.preferred 1) = some loop ∧
      ∃ ended, relayLoop twoGroups threeRetries failsOnce 9 0 loop = some ended ∧ ended.ranks = [(1, 0), (0, 1)] ∧
        ¬ended.ranks.Pairwise Before := by
  have chosen : (selectChannel twoGroups affinityGateway "m" crossGroup).toOption.map Prod.snd =
      some { crossGroup with autoGroup := some "b" } := by decide +kernel
  have begins : begin twoGroups threeRetries crossGroup "auto" "m" (.preferred 1) =
      some (Loop.start { crossGroup with autoGroup := some "b" } "auto" "m" [(1, 0)]) := by
    rfl
  obtain ⟨ended, ends, record⟩ := @second_selection { crossGroup with autoGroup := some "b" } twoGroups threeRetries "m" [(1, 0)]
    rfl (by rw [groups_of_crossGroup]; exact cons_ne_nil _ _) (by decide) rfl 7
  refine ⟨_, chosen, begins, ended, ends, record, ?_⟩
  rw [record]
  unfold Before
  decide

end Tokengine.Relay.Retry
