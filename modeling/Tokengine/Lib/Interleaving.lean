import Tokengine.Lib.Runs

/-! Processes that share a state and are interleaved statement by statement. A process is a tree of
statements; what is proved about one process speaks of the answers it may get, never of the others. -/

namespace Tokengine.Interleaving
open List Function Option

variable {S σ γ α β : Type} {A : S → Type}

inductive Script (A : S → Type) (α : Type) where
  | done (val : α)
  | call (statement : S) (next : A statement → Script A α)

def Script.bind : Script A α → (α → Script A β) → Script A β
  | .done val, rest => rest val
  | .call stmt next, rest => .call stmt fun answer => (next answer).bind rest

instance : Monad (Script A) where
  pure := .done
  bind := Script.bind

def perform (stmt : S) : Script A (A stmt) := .call stmt .done

abbrev Semantics (A : S → Type) (σ : Type) := Nat → σ → (stmt : S) → Option (A stmt × σ)

def Script.alone (exec : Semantics A σ) (pid : Nat) : Script A α → σ → Option (α × σ)
  | .done val, shared => some (val, shared)
  | .call stmt next, shared =>
    (exec pid shared stmt).bind fun outcome => (next outcome.1).alone exec pid outcome.2

variable {pid : Nat} {exec : Semantics A σ} {val : α}

theorem alone_perform {stmt : S} {shared : σ} {outcome : A stmt × σ} (ran : exec pid shared stmt = some outcome) :
    (perform stmt).alone exec pid shared = some outcome := by
  rw [perform, Script.alone, ran]
  rfl

theorem alone_bind {script : Script A α} {rest : α → Script A β} {shared after : σ}
    (ran : script.alone exec pid shared = some (val, after)) :
    (script.bind rest).alone exec pid shared = (rest val).alone exec pid after := by
  induction script generalizing shared with
  | done _ =>
    cases ran
    rfl
  | call stmt next tail =>
    obtain ⟨outcome, answered, remaining⟩ := bind_eq_some_iff.mp ran
    simp only [Script.bind, Script.alone, answered, bind_some]
    exact tail outcome.1 remaining

/-! Scripts that may fail. -/

variable {ε : Type} {script : ExceptT ε (Script A) α} {rest : α → ExceptT ε (Script A) β} {shared after : σ}

def ask (stmt : S) : ExceptT ε (Script A) (A stmt) := ExceptT.lift (perform stmt)

theorem alone_ok (ran : Script.alone exec pid script shared = some (.ok val, after)) :
    Script.alone exec pid (script >>= rest : ExceptT ε (Script A) β) shared = Script.alone exec pid (rest val) after :=
  alone_bind ran

theorem alone_error {e : ε} (ran : Script.alone exec pid script shared = some (.error e, after)) :
    Script.alone exec pid (script >>= rest : ExceptT ε (Script A) β) shared = some (.error e, after) :=
  alone_bind ran

def loop {ε : Type} (body : β → α → ExceptT ε (Script A) β) : List α → β → ExceptT ε (Script A) β
  | [], state => pure state
  | item :: rest, state => do
    let state ← body state item
    loop body rest state

/-! Processes under a scheduler. -/

structure Machine (A : S → Type) (σ α : Type) where
  shared : σ
  processes : List (Script A α)

def step (exec : Semantics A σ) (machine : Machine A σ α) (pid : Nat) : Option (Machine A σ α) :=
  match machine.processes[pid]? with
  | some (.call stmt next) =>
    (exec pid machine.shared stmt).map fun outcome =>
      ⟨outcome.2, machine.processes.set pid (next outcome.1)⟩
  | _ => none

variable {machine : Machine A σ α}

theorem step_some {after : Machine A σ α} (taken : step exec machine pid = some after) :
    ∃ stmt next answer shared, machine.processes[pid]? = some (.call stmt next) ∧
      exec pid machine.shared stmt = some (answer, shared) ∧
      after = ⟨shared, machine.processes.set pid (next answer)⟩ := by
  unfold step at taken
  split at taken
  next stmt next found =>
    obtain ⟨outcome, answered, rfl⟩ := map_eq_some_iff.mp taken
    exact ⟨stmt, next, outcome.1, outcome.2, found, answered, rfl⟩
  · cases taken

def whenPerforming (allows : σ → Nat → S → Prop) (machine : Machine A σ α) (pid : Nat) : Prop :=
  ∀ stmt next, machine.processes[pid]? = some (.call stmt next) → allows machine.shared pid stmt

theorem whenPerforming_call {allows : σ → Nat → S → Prop} {stmt : S}
    {next : A stmt → Script A α} (found : machine.processes[pid]? = some (.call stmt next))
    (allowed : allows machine.shared pid stmt) : whenPerforming allows machine pid := by
  intro other next' same
  cases found.symm.trans same
  exact allowed

instance decidableWhenPerforming {allows : σ → Nat → S → Prop} [∀ shared pid stmt, Decidable (allows shared pid stmt)]
    (machine : Machine A σ α) (pid : Nat) : Decidable (whenPerforming allows machine pid) :=
  match found : machine.processes[pid]? with
  | some (.call stmt _) => decidable_of_iff (allows machine.shared pid stmt)
      ⟨whenPerforming_call found, fun holds => holds stmt _ found⟩
  | some (.done _) => isTrue fun _ _ same => nomatch found.symm.trans same
  | none => isTrue fun _ _ same => nomatch found.symm.trans same

/-! What a process does, as far as its own statements and their answers tell. -/

/-- The statements a process may perform, the answers it may rely on, and how it accounts for them. -/
structure Discipline (A : S → Type) (γ : Type) where
  allowed : γ → S → Prop
  answered : γ → (statement : S) → A statement → Prop
  track : γ → (statement : S) → A statement → γ

/-- Every statement is allowed whatever the answers before it, and the account at the end satisfies `post`. -/
def Script.Meets (discipline : Discipline A γ) (post : γ → α → Prop) : Script A α → γ → Prop
  | .done val, acct => post acct val
  | .call stmt next, acct => discipline.allowed acct stmt ∧
      ∀ answer, discipline.answered acct stmt answer →
        (next answer).Meets discipline post (discipline.track acct stmt answer)

section Logic

variable {discipline : Discipline A γ} {post middle : γ → α → Prop} {acct : γ}

theorem meets_pure (holds : post acct val) : (pure val : Script A α).Meets discipline post acct :=
  holds

theorem meets_bind {script : Script A α} {rest : α → Script A β} {post : γ → β → Prop}
    (first : script.Meets discipline middle acct)
    (continues : ∀ acct val, middle acct val → (rest val).Meets discipline post acct) :
    (script >>= rest).Meets discipline post acct := by
  induction script generalizing acct with
  | done val => exact continues acct val first
  | call stmt next tail => exact ⟨first.1, fun answer relied => tail answer (first.2 answer relied)⟩

theorem meets_ask {stmt : S} {rest : A stmt → ExceptT ε (Script A) α} {post : γ → Except ε α → Prop}
    (allowed : discipline.allowed acct stmt)
    (continues : ∀ answer, discipline.answered acct stmt answer → Script.Meets discipline post (rest answer) (discipline.track acct stmt answer)) :
    Script.Meets discipline post (ask stmt >>= rest : ExceptT ε (Script A) α) acct := ⟨allowed, continues⟩

theorem meets_fallible_bind
    {middle : γ → Except ε α → Prop} {post : γ → Except ε β → Prop} (first : Script.Meets discipline middle script acct)
    (continues : ∀ acct val, middle acct (.ok val) → Script.Meets discipline post (rest val) acct)
    (fails : ∀ acct e, middle acct (.error e) → post acct (.error e)) :
    Script.Meets discipline post (script >>= rest : ExceptT ε (Script A) β) acct := by
  apply meets_bind first
  intro acct res reached
  cases res with
  | ok val => exact continues acct val reached
  | error e => exact fails acct e reached

def orFails {ε : Type} (post : γ → α → Prop) (fails : γ → Prop) (acct : γ) : Except ε α → Prop
  | .ok val => post acct val
  | .error _ => fails acct

variable {fails : γ → Prop}

theorem meets_then {post : γ → β → Prop} (first : Script.Meets discipline (orFails middle fails) script acct)
    (continues : ∀ acct val, middle acct val → Script.Meets discipline (orFails post fails) (rest val) acct) :
    Script.Meets discipline (orFails post fails) (script >>= rest : ExceptT ε (Script A) β) acct :=
  meets_fallible_bind first continues fun _ _ failed => failed

variable {body : β → α → ExceptT ε (Script A) β} {state : β}

/-- The rule for loops: an invariant of what remains of the list. -/
theorem meets_loop {invariant : List α → γ → β → Prop}
    (step : ∀ item rest acct state, invariant (item :: rest) acct state → Script.Meets discipline (orFails (invariant rest) fails) (body state item) acct)
    (items : List α) {acct : γ} (start : invariant items acct state) :
    Script.Meets discipline (orFails (invariant []) fails) (loop body items state) acct := by
  induction items generalizing acct state with
  | nil => exact start
  | cons item rest tail => exact meets_then (step item rest acct state start) fun _ _ reached => tail reached

/-- A loop all of whose items preserve a relation. -/
theorem meets_loop_all {holds : γ → β → Prop} {items : List α}
    (each : ∀ item ∈ items, ∀ acct state, holds acct state → Script.Meets discipline (orFails holds fails) (body state item) acct)
    (start : holds acct state) : Script.Meets discipline (orFails holds fails) (loop body items state) acct := by
  induction items generalizing acct state with
  | nil => exact start
  | cons item rest tail =>
    exact meets_then (each item mem_cons_self acct state start) fun _ _ reached =>
      tail (fun other mem => each other (mem_cons_of_mem _ mem)) reached

theorem meets_mono {post post' : γ → α → Prop} (weaker : ∀ acct val, post acct val → post' acct val)
    {script : Script A α} (meets : script.Meets discipline post acct) : script.Meets discipline post' acct := by
  induction script generalizing acct with
  | done val => exact weaker acct val meets
  | call stmt next tail => exact ⟨meets.1, fun answer relied => tail answer (meets.2 answer relied)⟩

/-- A process that runs alone and keeps to its discipline preserves what its statements preserve. -/
theorem alone_meets {pid : Nat} {invariant : σ → γ → Prop}
    (preserved : ∀ shared acct stmt answer after, invariant shared acct →
      discipline.allowed acct stmt → exec pid shared stmt = some (answer, after) →
      discipline.answered acct stmt answer ∧ invariant after (discipline.track acct stmt answer))
    {script : Script A α} {shared after : σ} (holds : invariant shared acct)
    (meets : script.Meets discipline post acct) (run : script.alone exec pid shared = some (val, after)) :
    ∃ reached, invariant after reached ∧ post reached val := by
  induction script generalizing acct shared with
  | done val =>
    cases run
    exact ⟨acct, holds, meets⟩
  | call stmt next tail =>
    obtain ⟨outcome, performed, remaining⟩ := bind_eq_some_iff.mp run
    obtain ⟨relied, kept⟩ := preserved shared acct stmt outcome.1 outcome.2 holds meets.1 performed
    exact tail outcome.1 kept (meets.2 outcome.1 relied) remaining

end Logic

def Coherent (discipline : Nat → Discipline A γ) (post : Nat → γ → α → Prop) (invariant : σ → (Nat → γ) → Prop)
    (count : Nat) (machine : Machine A σ α) : Prop :=
  machine.processes.length = count ∧ ∃ accts, invariant machine.shared accts ∧
    ∀ pid (script : Script A α), machine.processes[pid]? = some script →
      script.Meets (discipline pid) (post pid) (accts pid)

section Invariants

variable {discipline : Nat → Discipline A γ} {post : Nat → γ → α → Prop} {invariant : σ → (Nat → γ) → Prop}
  {allows : σ → Nat → S → Prop} {count : Nat}

def Preserved (exec : Semantics A σ) (discipline : Nat → Discipline A γ) (invariant : σ → (Nat → γ) → Prop)
    (allows : σ → Nat → S → Prop) (count : Nat) : Prop :=
  ∀ pid shared accts stmt answer after, pid < count → invariant shared accts →
    (discipline pid).allowed (accts pid) stmt → allows shared pid stmt →
    exec pid shared stmt = some (answer, after) →
    (discipline pid).answered (accts pid) stmt answer ∧
      invariant after (update accts pid ((discipline pid).track (accts pid) stmt answer))

theorem coherent_step (preserved : Preserved exec discipline invariant allows count)
    {after : Machine A σ α} {pid : Nat} (coherent : Coherent discipline post invariant count machine)
    (allowed : whenPerforming allows machine pid) (taken : step exec machine pid = some after) :
    Coherent discipline post invariant count after := by
  obtain ⟨length, accts, holds, meets⟩ := coherent
  obtain ⟨stmt, next, answer, shared, found, performed, rfl⟩ := step_some taken
  have inside : pid < machine.processes.length := (List.getElem?_eq_some_iff.mp found).1
  obtain ⟨kept, continues⟩ := meets pid _ found
  obtain ⟨relied, holdsAfter⟩ := preserved pid machine.shared accts stmt answer shared (length ▸ inside) holds
    kept (allowed stmt next found) performed
  refine ⟨(length_set).trans length, _, holdsAfter, ?_⟩
  intro other script present
  by_cases same : other = pid
  · subst same
    rw [getElem?_set_self inside] at present
    cases present
    rw [update_self]
    exact continues answer relied
  · rw [getElem?_set_ne (Ne.symm same)] at present
    rw [update_of_ne same]
    exact meets other script present

/-- Whatever the schedule, the accounts of the processes agree with the shared state. -/
theorem coherent_run (preserved : Preserved exec discipline invariant allows count)
    {after : Machine A σ α} {schedule : List Nat} (coherent : Coherent discipline post invariant count machine)
    (allowed : Runs.Guarded (step exec) (whenPerforming allows) machine schedule)
    (run : Runs.exec (step exec) machine schedule = some after) : Coherent discipline post invariant count after :=
  Runs.exec_invariant (fun _ _ _ coherent allowed taken => coherent_step preserved coherent allowed taken)
    coherent allowed run

end Invariants

end Tokengine.Interleaving
