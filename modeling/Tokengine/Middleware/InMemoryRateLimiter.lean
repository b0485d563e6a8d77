import Mathlib.Data.List.Induction

/-! The rate limiter in memory. Its queues are bounded and expire, yet it decides as the whole history of a key does. -/

namespace Tokengine.Middleware.InMemoryRateLimiter
open List Function

/-- `Request` at the time `now` on the queue of the key, oldest time first. A queue in the store is never empty. -/
def request (queue : Option (List Int)) (maxRequestNum : Nat) (duration now : Int) : Bool × Option (List Int) :=
  match queue with
  | none => (true, some [now])
  | some queue =>
    if queue.length < maxRequestNum then (true, some (queue ++ [now]))
    else if duration ≤ now - queue.headD 0 then (true, some (queue.tail ++ [now]))
    else (false, some queue)

def clearExpiredItems (expiration now : Int) (queue : Option (List Int)) : Option (List Int) :=
  queue.filter fun queue => queue.getLast?.any (now - · ≤ expiration)

inductive Event where
  | request (key : String) (maxRequestNum : Nat) (duration now : Int)
  | clear (now : Int)

def Event.now : Event → Int
  | .request _ _ _ now | .clear now => now

def serve (expiration : Int) (store : String → Option (List Int)) : Event → String → Option (List Int)
  | .request key maxRequestNum duration now => update store key (request (store key) maxRequestNum duration now).2
  | .clear now => fun key => clearExpiredItems expiration now (store key)

def run (expiration : Int) (events : List Event) : String → Option (List Int) := events.foldl (serve expiration) fun _ => none

/-- The time of a request of the key that is answered with true. -/
def admitted (key : String) (store : String → Option (List Int)) : Event → List Int
  | .request other maxRequestNum duration now =>
    if other = key ∧ (request (store key) maxRequestNum duration now).1 then [now] else []
  | .clear _ => []

/-- The times of all requests of the key that are answered with true, oldest first. -/
def accepted (expiration : Int) (key : String) (store : String → Option (List Int)) : List Event → List Int
  | [] => []
  | event :: later => admitted key store event ++ accepted expiration key (serve expiration store event) later

def recent (duration now : Int) (times : List Int) : List Int :=
  times.filter fun time => now - duration < time ∧ time ≤ now

/-- The queue holds the latest accepted times. While it has room, the others are out of the window. -/
structure Tracked (n : Nat) (duration now : Int) (stored : Option (List Int)) (times : List Int) : Prop where
  past : ∀ time ∈ times, time ≤ now
  sorted : times.Pairwise (· ≤ ·)
  queue : ∃ old queue, stored.getD [] = queue ∧ times = old ++ queue ∧ queue.length ≤ n ∧
    (queue.length < n → ∀ time ∈ old, time + duration ≤ now)

/-- What `Request` answers and leaves: it accepts iff fewer than `n` accepted requests are in the window. -/
def Decides (n : Nat) (duration now : Int) (times : List Int) (outcome : Bool × Option (List Int)) : Prop :=
  (outcome.1 = true ↔ (recent duration now times).length < n) ∧
    Tracked n duration now outcome.2 (times ++ if outcome.1 then [now] else [])

variable {n : Nat} {duration now later expiration : Int} {queue old times : List Int} {stored : Option (List Int)}

theorem accepted_concat (key : String) (store : String → Option (List Int)) (events : List Event) (event : Event) :
    accepted expiration key store (events ++ [event]) =
      accepted expiration key store events ++ admitted key (events.foldl (serve expiration) store) event := by
  induction events generalizing store with
  | nil => exact append_nil _
  | cons first rest tail =>
    rw [cons_append, accepted, tail, ← append_assoc]
    rfl

section

variable (tracked : Tracked n duration now stored times)
include tracked

theorem Tracked.wait (ordered : now ≤ later) : Tracked n duration later stored times := by
  obtain ⟨past, sorted, old, queue, same, split, bound, ago⟩ := tracked
  exact ⟨fun time mem => Int.le_trans (past time mem) ordered, sorted, old, queue, same, split, bound,
    fun room time mem => Int.le_trans (ago room time mem) ordered⟩

/-- A request is accepted when what is left of the queue has room and the rest is out of the window. -/
theorem Tracked.push (room : queue.length < n) (split : times = old ++ queue) (ago : ∀ time ∈ old, time + duration ≤ now) :
    Decides n duration now times (true, some (queue ++ [now])) := by
  have gone : recent duration now old = [] := filter_eq_nil_iff.mpr fun time mem => by grind
  have few : (recent duration now times).length < n := by
    rw [split, recent, filter_append, ← recent, gone]
    exact Nat.lt_of_le_of_lt (length_filter_le _ queue) room
  refine ⟨iff_of_true rfl few, ?_, ?_, old, queue ++ [now], rfl, ?_, ?_, fun _ => ago⟩
  · exact forall_mem_append.mpr ⟨tracked.past, forall_mem_singleton.mpr (Int.le_refl now)⟩
  · exact pairwise_append.mpr ⟨tracked.sorted, pairwise_singleton .., by simpa using tracked.past⟩
  · rw [split, append_assoc]
    rfl
  · rw [length_append]
    exact room

theorem Tracked.request (pos : 0 < n) : Decides n duration now times (request stored n duration now) := by
  obtain ⟨old, kept, same, split, bound, ago⟩ := tracked.queue
  unfold InMemoryRateLimiter.request
  split
  next =>
    cases same
    have first : Decides n duration now times (true, some ([] ++ [now])) := tracked.push pos split (ago pos)
    exact first
  next queue =>
    cases same
    by_cases room : queue.length < n
    · rw [if_pos room]
      exact tracked.push room split (ago room)
    rw [if_neg room]
    cases queue with
    | nil => exact absurd pos room
    | cons oldest rest =>
      have sorted := tracked.sorted
      rw [split, Option.getD_some, pairwise_append, pairwise_cons] at sorted
      obtain ⟨_, ⟨newer, _⟩, older⟩ := sorted
      split_ifs with expired
      · refine tracked.push bound (split.trans (append_cons ..)) (forall_mem_append.mpr ⟨fun time mem => ?_, ?_⟩)
        · have := older time mem oldest mem_cons_self
          grind
        · grind
      · refine ⟨iff_of_false Bool.false_ne_true ?_, (append_nil _).symm ▸ tracked⟩
        have kept : recent duration now (oldest :: rest) = oldest :: rest := by
          refine filter_eq_self.mpr fun time mem => ?_
          have past := tracked.past time (split ▸ mem_append_right old mem)
          grind
        rw [split, Option.getD_some, recent, filter_append, ← recent, ← recent, kept, length_append]
        omega

theorem Tracked.clear (pos : 0 < n) (within : duration ≤ expiration) :
    Tracked n duration now (clearExpiredItems expiration now stored) times := by
  obtain ⟨past, sorted, old, queue, same, split, bound, ago⟩ := tracked
  refine ⟨past, sorted, ?_⟩
  cases cleared : clearExpiredItems expiration now stored with
  | some kept =>
    obtain ⟨found, -⟩ := Option.filter_eq_some_iff.mp cleared
    rw [found] at same
    exact ⟨old, queue, same, split, bound, ago⟩
  | none =>
    refine ⟨times, [], rfl, (append_nil _).symm, Nat.zero_le n, fun _ time mem => ?_⟩
    cases queue using reverseRecOn with
    | nil => exact ago pos time (by rwa [split, append_nil] at mem)
    | append_singleton earlier last =>
      have found : stored = some (earlier ++ [last]) := by
        cases stored with
        | none => simp at same
        | some kept => rw [← same, Option.getD_some]
      have expired := Option.filter_eq_none_iff.mp cleared _ found
      rw [split, ← append_assoc] at sorted mem
      have older : time ≤ last := by grind
      simp at expired
      omega

end

/-- The limiter in memory is an exact sliding window for every key with a fixed limit and period. -/
theorem request_sliding {events : List Event} {key : String} (pos : 0 < n) (within : duration ≤ expiration)
    (fixed : ∀ m d now, Event.request key m d now ∈ events → m = n ∧ d = duration)
    (ordered : events.Pairwise (·.now ≤ ·.now)) (last : ∀ event ∈ events, event.now ≤ now) :
    (request (run expiration events key) n duration now).1 = true ↔
      (recent duration now (accepted expiration key (fun _ => none) events)).length < n := by
  refine (Tracked.request ?_ pos).1
  induction events using reverseRecOn generalizing now with
  | nil => exact ⟨forall_mem_nil _, .nil, [], [], rfl, rfl, Nat.zero_le n, fun _ => forall_mem_nil _⟩
  | append_singleton events event tail =>
    obtain ⟨ordered, -, before⟩ := pairwise_append.mp ordered
    have tracked := tail (fun m d now mem => fixed m d now (mem_append_left _ mem)) ordered
      fun earlier mem => before earlier mem event mem_cons_self
    refine Tracked.wait ?_ (last event (by simp))
    rw [run, foldl_append, ← run, foldl_cons, foldl_nil, accepted_concat, ← run]
    cases event with
    | clear time =>
      rw [admitted, append_nil]
      exact tracked.clear pos within
    | request other m d time =>
      by_cases same : other = key
      · subst same
        obtain ⟨rfl, rfl⟩ := fixed m d time (by simp)
        rw [serve, update_self, admitted]
        simp only [true_and]
        exact (tracked.request pos).2
      · rw [serve, update_of_ne (Ne.symm same), admitted, if_neg fun both => same both.1, append_nil]
        exact tracked

theorem request_sliding_cleared : (request (run 60 [.request "k" 1 60 0, .clear 61] "k") 1 60 61).1 = true ↔
      (recent 60 61 (accepted 60 "k" (fun _ => none) [.request "k" 1 60 0, .clear 61])).length < 1 :=
  request_sliding (by decide) (by decide) (by simp +contextual) (by decide) (by decide)

end Tokengine.Middleware.InMemoryRateLimiter
