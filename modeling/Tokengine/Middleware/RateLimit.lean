import Tokengine.Lib.Interleaving

/-! The rate limiter on Redis. A request looks at the times of earlier requests and pushes its own in separate commands,
between which others may be served. -/

namespace Tokengine.Middleware.RateLimit
open Interleaving List Runs

/-- Commands on the list of one key, and readings of the clock in milliseconds. The key lives longer than the period, so
that its end changes no decision. -/
inductive Command where
  | lLen
  | lIndexLast
  | now
  | lPush (time : Int)
  | lTrim (length : Nat)
  | expire

abbrev Answer : Command → Type
  | .lLen => Nat
  | .lIndexLast => Option Int
  | .now => Int
  | _ => Unit

def send (command : Command) : Script Answer (Answer command) := perform command

/-- `redisRateLimiter` and `userRedisRateLimiter`, which differ in the key only. An empty text is not a time. -/
def redisRateLimiter (maxRequestNum : Nat) (duration : Int) : Script Answer Bool := do
  let listLength : Nat ← send .lLen
  if listLength < maxRequestNum then
    let time : Int ← send .now
    let _ ← send (.lPush time)
    let _ ← send .expire
    pure true
  else
    let oldest : Option Int ← send .lIndexLast
    match oldest with
    | none => pure false
    | some oldTime =>
      let nowTime : Int ← send .now
      if (nowTime - oldTime).tdiv 1000 < duration then
        let _ ← send .expire
        pure false
      else
        let time : Int ← send .now
        let _ ← send (.lPush time)
        let _ ← send (.lTrim maxRequestNum)
        let _ ← send .expire
        pure true

/-- The list of the key, latest first; the number of commands; the last reading of the clock. -/
structure Shared where
  times : List Int
  tick : Nat
  reading : Int

variable (clock : Nat → Int) (n : Nat) (duration : Int)

def exec : Semantics Answer Shared := fun _ shared command =>
  let later := { shared with tick := shared.tick + 1 }
  match command with
  | .lLen => some (shared.times.length, later)
  | .lIndexLast => some (shared.times.getLast?, later)
  | .now => some (clock shared.tick, { later with reading := clock shared.tick })
  | .lPush time => some ((), { later with times := time :: shared.times })
  | .lTrim length => some ((), { later with times := shared.times.take length })
  | .expire => some ((), later)

/-- A request that is served before the next one begins. If it is let through, its time is the last one it has read;
the times of the requests that were let through are kept, latest first. -/
def serve (served : Shared × List Int) (pid : Nat) : Option (Shared × List Int) :=
  ((redisRateLimiter n duration).alone (exec clock) pid served.1).map fun outcome =>
    (outcome.2, if outcome.1 then outcome.2.reading :: served.2 else served.2)

def within (begin : Int) (times : List Int) : List Int :=
  times.filter fun time => decide (begin ≤ time) && decide (time < begin + duration * 1000)

/-- Every request comes a period after those that are `n` or more before it. -/
def Spaced : List Int → Prop
  | [] => True
  | time :: earlier => (∀ old ∈ (time :: earlier).drop n, old + duration * 1000 ≤ time) ∧ Spaced earlier

structure Kept (shared : Shared) (passed : List Int) : Prop where
  past : ∀ time ∈ passed, time ≤ clock shared.tick
  spaced : Spaced n duration passed
  latest : shared.times = passed.take n

section Steps

variable {clock : Nat → Int} {n : Nat} {duration : Int} {shared : Shared} {passed : List Int}

theorem within_spaced (begin : Int) {times : List Int} (spaced : Spaced n duration times) :
    (within duration begin times).length ≤ n := by
  induction times with
  | nil => exact Nat.zero_le n
  | cons time earlier tail =>
    by_cases inside : begin ≤ time ∧ time < begin + duration * 1000
    · have outside : within duration begin ((time :: earlier).drop n) = [] := by
        refine filter_eq_nil_iff.mpr fun old mem => ?_
        have := spaced.1 old mem
        simp only [Bool.and_eq_true, decide_eq_true_eq, not_and]
        omega
      rw [← take_append_drop n (time :: earlier), within, filter_append, ← within, ← within, outside,
        append_nil]
      exact Nat.le_trans (length_filter_le _ _) (length_take_le n _)
    · rw [within, filter_cons_of_neg (by simpa using inside)]
      exact tail spaced.2

variable (ordered : ∀ {first last : Nat}, first ≤ last → clock first ≤ clock last)
  (kept : Kept clock n duration shared passed)
include ordered kept

theorem Kept.pass (pos : 0 < n) {read tick : Nat} (after : shared.tick ≤ read) (before : read ≤ tick)
    (clear : ∀ old ∈ passed.drop (n - 1), old + duration * 1000 ≤ clock read) :
    Kept clock n duration ⟨(clock read :: shared.times).take n, tick, clock read⟩ (clock read :: passed) := by
  obtain ⟨m, rfl⟩ := Nat.exists_eq_add_one_of_ne_zero (Nat.ne_of_gt pos)
  refine ⟨fun time mem => ?_, ⟨clear, kept.spaced⟩, ?_⟩
  · rcases mem_cons.mp mem with rfl | earlier
    · exact ordered before
    · exact Int.le_trans (kept.past time earlier) (ordered (Nat.le_trans after before))
  · rw [kept.latest, take_succ_cons, take_succ_cons, take_take, Nat.min_eq_left (Nat.le_succ m)]

/-- The oldest time of a full list is that of the request `n` before the next one. -/
theorem Kept.clear {read : Nat} (after : shared.tick ≤ read) {oldTime : Int} (full : n ≤ shared.times.length)
    (oldest : shared.times.getLast? = some oldTime) (due : oldTime + duration * 1000 ≤ clock read) :
    ∀ old ∈ passed.drop (n - 1), old + duration * 1000 ≤ clock read := by
  rw [kept.latest] at full oldest
  obtain ⟨front, ends⟩ := getLast?_eq_some_iff.mp oldest
  have length : front.length + 1 = n := by
    have bound := length_take_le n passed
    rw [ends, length_append, length_singleton] at full bound
    omega
  have split : passed = front ++ oldTime :: passed.drop n := by
    rw [← singleton_append, ← append_assoc, ← ends, take_append_drop]
  intro old mem
  rw [split, ← length, Nat.add_sub_cancel, drop_left] at mem
  rcases mem_cons.mp mem with rfl | further
  · exact due
  rw [length] at further
  have read := ordered after
  have spaced := kept.spaced
  cases parts : passed with
  | nil => simp [parts] at further
  | cons latest earlier =>
    rw [parts] at spaced further
    have := spaced.1 old further
    have recent : latest ≤ clock shared.tick := kept.past latest (by simp [parts])
    omega

theorem kept_served (pos : 0 < n) {pid : Nat} {after : Shared × List Int}
    (served : serve clock n duration (shared, passed) pid = some after) : Kept clock n duration after.1 after.2 := by
  obtain ⟨⟨passes, last⟩, ran, rfl⟩ := Option.map_eq_some_iff.mp served
  change Script.alone _ pid (if shared.times.length < n then _ else _) _ = _ at ran
  split at ran
  next room =>
    cases ran
    have few : passed.length < n := by
      rw [kept.latest, length_take] at room
      omega
    have granted := kept.pass ordered pos (Nat.le_succ _) (Nat.le_add_right _ 3)
      (by rw [drop_of_length_le (Nat.le_sub_one_of_lt few)]; exact forall_mem_nil _)
    rw [take_of_length_le (Nat.succ_le_of_lt room)] at granted
    exact granted
  next full =>
  cases oldest : shared.times.getLast? with
  | none =>
    rw [getLast?_eq_none_iff.mp oldest] at full
    exact absurd pos full
  | some oldTime =>
    change Script.alone _ pid (match shared.times.getLast? with | none => _ | some _ => _) _ = _ at ran
    rw [oldest] at ran
    change Script.alone _ pid (if (clock (shared.tick + 2) - oldTime).tdiv 1000 < duration then _ else _) _ = _ at ran
    split at ran
    · cases ran
      have past := fun time mem => Int.le_trans (kept.past time mem) (ordered (Nat.le_add_right shared.tick 4))
      exact ⟨past, kept.spaced, kept.latest⟩
    next waited =>
    cases ran
    have seen : oldTime ∈ passed := mem_of_mem_take (kept.latest ▸ mem_of_getLast? oldest)
    have past := Int.le_trans (kept.past oldTime seen) (ordered (Nat.le_add_right shared.tick 2))
    rw [Int.tdiv_eq_ediv_of_nonneg (by omega)] at waited
    have due : oldTime + duration * 1000 ≤ clock (shared.tick + 3) := by
      have := @ordered (shared.tick + 2) (shared.tick + 3) (by omega)
      omega
    exact kept.pass ordered pos (Nat.le_add_right _ 3) (Nat.le_add_right _ 4)
      (kept.clear ordered (Nat.le_add_right _ 3) (Nat.not_lt.mp full) oldest due)

end Steps

/-- Of requests that come one after another, at most `n` are let through in any period. -/
theorem limited_one_by_one (clock : Nat → Int) (n : Nat) (duration : Int) (pids : List Nat) (after : Shared × List Int)
    (pos : 0 < n) (ordered : ∀ {first last : Nat}, first ≤ last → clock first ≤ clock last)
    (run : Runs.exec (serve clock n duration) (⟨[], 0, 0⟩, []) pids = some after) (begin : Int) :
    (within duration begin after.2).length ≤ n := by
  have nothing : Kept clock n duration ⟨[], 0, 0⟩ [] := ⟨nofun, trivial, take_nil.symm⟩
  have keeps : ∀ served pid later, Kept clock n duration served.1 served.2 → True →
      serve clock n duration served pid = some later → Kept clock n duration later.1 later.2 :=
    fun _ _ _ kept _ ran => kept_served ordered kept pos ran
  have kept := exec_invariant keeps nothing (guarded_always (fun _ _ => trivial) pids _) run
  exact within_spaced begin kept.spaced

theorem limited_two_requests :
    ∃ after, Runs.exec (serve (fun tick => tick) 1 1) (⟨[], 0, 0⟩, []) [0, 1] = some after ∧ after.2 = [1] ∧
      (within 1 0 after.2).length ≤ 1 :=
  ⟨_, rfl, rfl, limited_one_by_one (fun tick => tick) 1 1 [0, 1] _ (by decide) Int.ofNat_le.mpr rfl 0⟩

/-- Both requests ask for the length before either pushes, and both are let through within eight milliseconds. -/
theorem limit_exceeded :
    ∃ after, Runs.exec (step (exec fun tick => tick)) ⟨⟨[], 0, 0⟩, [redisRateLimiter 1 1, redisRateLimiter 1 1]⟩
        [0, 1, 0, 0, 0, 1, 1, 1] = some after ∧ after.processes = [.done true, .done true] ∧ after.shared.tick = 8 :=
  ⟨_, rfl, rfl, rfl⟩

end Tokengine.Middleware.RateLimit
