import Tokengine.Lib.Runs
import Mathlib.Algebra.GroupWithZero.Nat
import Mathlib.Algebra.Ring.Int.Defs

/-! The locks of orders. The entry of a trade number comes and goes while calls wait for its mutex. -/

namespace Tokengine.Payments.OrderLocks
open List Function Option Runs

/-- A call waits for the mutex, holds it, has loaded it for `mu.Unlock`, or is past that. -/
inductive Phase where
  | waiting | holding | loaded | released
deriving DecidableEq

def Phase.holds : Phase → Bool
  | .holding | .loaded => true
  | .waiting | .released => false

/-- A call that has registered in `LockOrder`, with the address of its mutex. -/
structure Call where
  rcm : Nat
  phase : Phase
deriving DecidableEq

structure RefCountedMutex where
  locked : Bool
  refCount : Int

/-- A trade number: its entry in `orderLocks`, the mutexes made for it so far, and its calls. A mutex is stored under one
trade number only, so that the addresses of each are its own. -/
structure Order where
  orderLocks : Option Nat
  mutexes : Nat → RefCountedMutex
  allocated : Nat
  calls : List Call

def fresh : Order := ⟨none, fun _ => ⟨false, 0⟩, 0, []⟩

/-- The sections of `LockOrder` (the first two) and of `UnlockOrder`. -/
inductive Section where
  | register
  | lock (call : Call)
  | load (call : Call)
  | unlock (call : Call)
  | deregister (call : Call)

def Order.step (order : Order) : Section → Option Order
  | .register =>
    match order.orderLocks with
    | some rcm =>
      let mutex := order.mutexes rcm
      some { order with
        mutexes := update order.mutexes rcm { mutex with refCount := mutex.refCount + 1 }
        calls := ⟨rcm, .waiting⟩ :: order.calls }
    | none => some {
        orderLocks := some order.allocated
        mutexes := update order.mutexes order.allocated ⟨false, 0 + 1⟩
        allocated := order.allocated + 1
        calls := ⟨order.allocated, .waiting⟩ :: order.calls }
  | .lock call =>
    let mutex := order.mutexes call.rcm
    if call ∈ order.calls ∧ call.phase = .waiting ∧ mutex.locked = false then
      some { order with
        mutexes := update order.mutexes call.rcm { mutex with locked := true }
        calls := ⟨call.rcm, .holding⟩ :: order.calls.erase call }
    else none
  | .load call =>
    if call ∈ order.calls ∧ call.phase = .holding then
      some { order with calls := (order.orderLocks.map (⟨·, .loaded⟩)).toList ++ order.calls.erase call }
    else none
  | .unlock call =>
    if call ∈ order.calls ∧ call.phase = .loaded then
      some { order with
        mutexes := update order.mutexes call.rcm { order.mutexes call.rcm with locked := false }
        calls := ⟨call.rcm, .released⟩ :: order.calls.erase call }
    else none
  | .deregister call =>
    if call ∈ order.calls ∧ call.phase = .released then
      let mutex := order.mutexes call.rcm
      some { order with
        orderLocks := if mutex.refCount - 1 = 0 then none else order.orderLocks
        mutexes := update order.mutexes call.rcm { mutex with refCount := mutex.refCount - 1 }
        calls := order.calls.erase call }
    else none

/-- Sections of different trade numbers interleave. -/
def step (orders : String → Order) (taken : String × Section) : Option (String → Order) :=
  ((orders taken.1).step taken.2).map (update orders taken.1)

def holders (calls : List Call) : Nat :=
  calls.countP (·.phase.holds)

/-- By how much a section changes the number of registered calls. -/
def Section.registers : Section → Int
  | .register => 1
  | .deregister _ => -1
  | _ => 0

/-- By how much a section changes the number of calls between `mu.Lock` and `mu.Unlock`. -/
def Section.acquires : Section → Int
  | .lock _ => 1
  | .unlock _ => -1
  | _ => 0

/-- The changes by the sections of a trade number. -/
def total (change : Section → Int) (tradeNo : String) (taken : List (String × Section)) : Int :=
  ((taken.filter fun done => done.1 = tradeNo).map fun done => change done.2).sum

inductive Sound (order : Order) : Prop where
  | absent (entry : order.orderLocks = none) (alone : order.calls = [])
  | listed {rcm : Nat} {mutex : RefCountedMutex} (entry : order.orderLocks = some rcm) (stored : order.mutexes rcm = mutex)
    (uses : ∀ call ∈ order.calls, call.rcm = rcm) (used : order.calls ≠ [])
    (counted : mutex.refCount = order.calls.length) (held : holders order.calls = mutex.locked.toNat)

variable {order next : Order} {call : Call}

/-- What is left when a call leaves, for good or for another phase. -/
theorem Sound.erase (sound : Sound order) (mem : call ∈ order.calls) :
    order.orderLocks = some call.rcm ∧ (∀ other ∈ order.calls.erase call, other.rcm = call.rcm) ∧
      (order.mutexes call.rcm).refCount = (order.calls.erase call).length + 1 ∧
      holders (order.calls.erase call) + (if call.phase.holds then 1 else 0) =
        (order.mutexes call.rcm).locked.toNat := by
  have apart := perm_cons_erase mem
  cases sound with
  | absent entry alone => cases alone ▸ mem
  | listed entry stored uses used counted held =>
    cases uses call mem
    cases stored
    exact ⟨entry, fun other left => uses other (mem_of_mem_erase left), counted.trans (congrArg _ apart.length_eq),
      countP_cons.symm.trans ((apart.countP_eq _).symm.trans held)⟩

theorem Sound.move (sound : Sound order) (mem : call ∈ order.calls) {phase : Phase} {locked : Bool}
    {mutexes : Nat → RefCountedMutex} (stored : mutexes call.rcm = { order.mutexes call.rcm with locked })
    (together : ∀ rest, rest + (if call.phase.holds then 1 else 0) = (order.mutexes call.rcm).locked.toNat →
      rest + (if phase.holds then 1 else 0) = locked.toNat) :
    Sound { order with mutexes, calls := ⟨call.rcm, phase⟩ :: order.calls.erase call } := by
  obtain ⟨entry, uses, counted, held⟩ := sound.erase mem
  exact .listed entry stored (forall_mem_cons.mpr ⟨rfl, uses⟩) (cons_ne_nil _ _) counted (countP_cons.trans (together _ held))

theorem Sound.step {taken : Section} (sound : Sound order) (stepped : order.step taken = some next) : Sound next := by
  cases taken with
  | register =>
    rw [Order.step] at stepped
    cases sound with
    | absent entry alone =>
      rw [entry, alone] at stepped
      cases stepped
      exact .listed rfl (update_self ..) (forall_mem_singleton.mpr rfl) (cons_ne_nil _ _) rfl rfl
    | listed entry stored uses used counted held =>
      rw [entry] at stepped
      cases stored
      cases stepped
      exact .listed rfl (update_self ..) (forall_mem_cons.mpr ⟨rfl, uses⟩) (cons_ne_nil _ _)
        (congrArg (· + 1) counted) held
  | lock call =>
    obtain ⟨⟨mem, waiting, free⟩, same⟩ := ite_none_right_eq_some.mp stepped
    cases same
    refine sound.move mem (update_self ..) fun rest held => ?_
    rw [waiting, free] at held
    exact congrArg (· + 1) held
  | load call =>
    obtain ⟨⟨mem, holding⟩, same⟩ := ite_none_right_eq_some.mp stepped
    have entry := (sound.erase mem).1
    rw [entry] at same
    cases same
    nth_rewrite 1 [← entry]
    refine sound.move mem (Eq.refl (order.mutexes call.rcm)) fun rest held => ?_
    rw [holding] at held
    exact held
  | unlock call =>
    obtain ⟨⟨mem, loaded⟩, same⟩ := ite_none_right_eq_some.mp stepped
    cases same
    refine sound.move mem (update_self ..) fun rest held => ?_
    have most := Bool.toNat_le (order.mutexes call.rcm).locked
    rw [← held, loaded] at most
    exact Nat.le_zero.mp (Nat.le_of_succ_le_succ most)
  | deregister call =>
    obtain ⟨⟨mem, released⟩, same⟩ := ite_none_right_eq_some.mp stepped
    obtain ⟨entry, uses, counted, held⟩ := sound.erase mem
    rw [released] at held
    cases same
    have last : (order.mutexes call.rcm).refCount - 1 = 0 ↔ order.calls.erase call = [] := by
      rw [← length_eq_zero_iff]
      omega
    by_cases alone : order.calls.erase call = []
    · exact .absent (if_pos (last.mpr alone)) alone
    · exact .listed ((if_neg (mt last.mp alone)).trans entry) (update_self ..) uses alone
        (Int.sub_eq_iff_eq_add.mpr counted) held

/-- A call leaves its phase for another one. -/
theorem holders_move {calls : List Call} (mem : call ∈ calls) (phase : Phase) :
    (⟨call.rcm, phase⟩ :: calls.erase call).length = calls.length ∧
      holders (⟨call.rcm, phase⟩ :: calls.erase call) + (if call.phase.holds then 1 else 0) =
        holders calls + if phase.holds then 1 else 0 := by
  have apart := perm_cons_erase mem
  have held : holders calls = holders (calls.erase call) + if call.phase.holds then 1 else 0 :=
    (apart.countP_eq _).trans countP_cons
  exact ⟨apart.length_eq.symm, by rw [held, Nat.add_right_comm]; exact congrArg (· + _) countP_cons⟩

/-- The calls follow the sections that were taken. -/
theorem Sound.counts {taken : Section} (sound : Sound order) (stepped : order.step taken = some next) :
    (next.calls.length : Int) = order.calls.length + taken.registers ∧
      (holders next.calls : Int) = holders order.calls + taken.acquires := by
  cases taken with
  | register =>
    rw [Order.step] at stepped
    split at stepped <;> cases stepped <;> exact ⟨rfl, by simp [holders, Phase.holds, Section.acquires]⟩
  | lock call =>
    obtain ⟨⟨mem, waiting, _⟩, same⟩ := ite_none_right_eq_some.mp stepped
    cases same
    obtain ⟨length, held⟩ := holders_move mem .holding
    simp only [waiting, Phase.holds, Section.registers, Section.acquires, ↓reduceIte, Bool.false_eq_true] at length held ⊢
    omega
  | load call =>
    obtain ⟨⟨mem, holding⟩, same⟩ := ite_none_right_eq_some.mp stepped
    rw [(sound.erase mem).1] at same
    cases same
    obtain ⟨length, held⟩ := holders_move mem .loaded
    simp only [holding, Phase.holds, Section.registers, Section.acquires, ↓reduceIte, map_some, toList_some, singleton_append] at length held ⊢
    omega
  | unlock call =>
    obtain ⟨⟨mem, loaded⟩, same⟩ := ite_none_right_eq_some.mp stepped
    cases same
    obtain ⟨length, held⟩ := holders_move mem .released
    simp only [loaded, Phase.holds, Section.registers, Section.acquires, ↓reduceIte, Bool.false_eq_true] at length held ⊢
    omega
  | deregister call =>
    obtain ⟨⟨mem, released⟩, same⟩ := ite_none_right_eq_some.mp stepped
    cases same
    have apart := perm_cons_erase mem
    have length := apart.length_eq
    have held : holders order.calls = holders (order.calls.erase call) + if call.phase.holds then 1 else 0 :=
      (apart.countP_eq _).trans countP_cons
    simp only [released, Phase.holds, Section.registers, Section.acquires, length_cons, ↓reduceIte, Bool.false_eq_true] at length held ⊢
    omega

/-- A trade number whose entry is sound and whose calls are those of the sections taken. -/
structure Follows (tradeNo : String) (taken : List (String × Section)) (order : Order) : Prop where
  sound : Sound order
  registered : (order.calls.length : Int) = total Section.registers tradeNo taken
  holding : (holders order.calls : Int) = total Section.acquires tradeNo taken

theorem total_concat (change : Section → Int) (tradeNo : String) (taken : List (String × Section)) (last : String × Section) :
    total change tradeNo (taken ++ [last]) =
      total change tradeNo taken + if last.1 = tradeNo then change last.2 else 0 := by
  by_cases mine : last.1 = tradeNo <;> simp [total, filter_append, mine]

theorem follows_step (taken : List (String × Section)) (orders : String → Order) (last : String × Section) (after : String → Order)
    (follows : ∀ tradeNo, Follows tradeNo taken (orders tradeNo)) (stepped : step orders last = some after) :
    ∀ tradeNo, Follows tradeNo (taken ++ [last]) (after tradeNo) := by
  obtain ⟨next, once, rfl⟩ := map_eq_some_iff.mp stepped
  rw [forall_update_iff orders fun tradeNo order => Follows tradeNo (taken ++ [last]) order]
  constructor
  · obtain ⟨sound, registered, holding⟩ := follows last.1
    obtain ⟨calls, held⟩ := sound.counts once
    refine ⟨sound.step once, ?_, ?_⟩
    · rw [calls, registered, total_concat, if_pos rfl]
    · rw [held, holding, total_concat, if_pos rfl]
  · intro other ne
    obtain ⟨sound, registered, holding⟩ := follows other
    refine ⟨sound, ?_, ?_⟩
    · rw [registered, total_concat, if_neg ne.symm, Int.add_zero]
    · rw [holding, total_concat, if_neg ne.symm, Int.add_zero]

theorem follows_run {taken : List (String × Section)} {orders : String → Order}
    (run : exec step (fun _ => fresh) taken = some orders) : ∀ tradeNo, Follows tradeNo taken (orders tradeNo) := by
  have start : ∀ tradeNo, Follows tradeNo [] fresh := fun _ => ⟨.absent rfl rfl, rfl, rfl⟩
  exact exec_history start follows_step run

/-- At most one call holds a trade number. It has an entry exactly while calls are registered; its reference count is
their number, and they all use the registered mutex. Who is registered and who holds is counted in the sections taken. -/
theorem order_exclusive {taken : List (String × Section)} {orders : String → Order}
    (run : exec step (fun _ => fresh) taken = some orders) (tradeNo : String) :
    total Section.acquires tradeNo taken ≤ 1 ∧
      ((orders tradeNo).orderLocks = none ↔ total Section.registers tradeNo taken = 0) ∧
      (∀ rcm, (orders tradeNo).orderLocks = some rcm → 0 < ((orders tradeNo).mutexes rcm).refCount ∧
        ((orders tradeNo).mutexes rcm).refCount = total Section.registers tradeNo taken) ∧
      (orders tradeNo).calls.length = total Section.registers tradeNo taken ∧
      holders (orders tradeNo).calls = total Section.acquires tradeNo taken ∧
      ∀ call ∈ (orders tradeNo).calls, (orders tradeNo).orderLocks = some call.rcm := by
  obtain ⟨sound, registered, holding⟩ := follows_run run tradeNo
  rw [← registered, ← holding]
  refine ⟨?_, ?_, ?_, rfl, rfl, fun call mem => (sound.erase mem).1⟩
  all_goals cases sound with
  | absent entry alone => simp [entry, alone, holders]
  | listed entry stored uses used counted held => grind [Bool.toNat_le, length_pos_iff]

theorem order_exclusive_waiting : ∃ orders, exec step (fun _ => fresh)
    [("A", .register), ("A", .lock ⟨0, .waiting⟩), ("A", .register), ("B", .register)] = some orders ∧
    (orders "A").calls.length = total Section.registers "A"
      [("A", .register), ("A", .lock ⟨0, .waiting⟩), ("A", .register), ("B", .register)] :=
  exists_end_of (by decide) fun _ run => (order_exclusive run "A").2.2.2.1

/-! ### Progress -/

/-- The sections left to the calls. -/
def left (calls : List Call) : Nat :=
  (calls.map fun call => 4 - call.phase.ctorIdx).sum

/-- A call that has locked goes on by itself, and when all calls wait the mutex is free. -/
theorem Sound.progress (sound : Sound order) (ne : order.calls ≠ []) :
    ∃ taken next, taken ≠ .register ∧ order.step taken = some next ∧ left next.calls < left order.calls := by
  have less : ∀ call ∈ order.calls, ∀ n < 4 - call.phase.ctorIdx, n + left (order.calls.erase call) < left order.calls := by
    intro call mem n less
    rw [left, left, ((perm_cons_erase mem).map _).sum_nat]
    exact Nat.add_lt_add_right less _
  by_cases waiting : ∀ call ∈ order.calls, call.phase = .waiting
  · obtain ⟨call, mem⟩ := exists_mem_of_ne_nil _ ne
    have own := waiting call mem
    have idle : holders (order.calls.erase call) = 0 :=
      countP_eq_zero.mpr fun other mem => by simp [waiting other (mem_of_mem_erase mem), Phase.holds]
    have free := (sound.erase mem).2.2.2
    rw [idle, own] at free
    exact ⟨.lock call, _, Section.noConfusion, if_pos ⟨mem, own, Bool.toNat_eq_zero.mp free.symm⟩,
      less call mem 3 (by rw [own]; decide)⟩
  · simp only [not_forall] at waiting
    obtain ⟨call, mem, busy⟩ := waiting
    have less := less call mem
    cases phase : call.phase <;> rw [phase] at less
    · exact absurd phase busy
    · refine ⟨.load call, _, Section.noConfusion, if_pos ⟨mem, phase⟩, ?_⟩
      rw [(sound.erase mem).1]
      exact less 2 (by decide)
    · exact ⟨.unlock call, _, Section.noConfusion, if_pos ⟨mem, phase⟩, less 1 (by decide)⟩
    · exact ⟨.deregister call, _, Section.noConfusion, if_pos ⟨mem, phase⟩, by simpa using less 0 (by decide)⟩

/-- No deadlock: at every moment the calls registered for a trade number can all finish, and its entry is gone then. -/
theorem orders_drain (taken : List (String × Section)) : Along step (fun orders => ∀ tradeNo, ∃ sections done,
    .register ∉ sections ∧ exec Order.step (orders tradeNo) sections = some done ∧ done.calls = [] ∧
      done.orderLocks = none) (fun _ => fresh) taken := by
  intro done _ orders run tradeNo
  have sound := (follows_run run tradeNo).sound
  generalize orders tradeNo = order at sound ⊢
  induction size : left order.calls using Nat.strongRecOn generalizing order with
  | ind size shorter =>
    by_cases alone : order.calls = []
    · cases sound with
      | absent entry => exact ⟨[], order, not_mem_nil, rfl, alone, entry⟩
      | listed _ _ _ used => exact absurd alone used
    obtain ⟨taken, next, other, stepped, less⟩ := sound.progress alone
    obtain ⟨sections, done, own, run, empty⟩ := shorter _ (size ▸ less) next (sound.step stepped) rfl
    refine ⟨taken :: sections, done, not_mem_cons_of_ne_of_not_mem other.symm own, ?_, empty⟩
    rw [exec, stepped]
    exact run

end Tokengine.Payments.OrderLocks
