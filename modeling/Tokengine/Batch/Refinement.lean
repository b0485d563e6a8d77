import Mathlib.Tactic.Ring
import Tokengine.Batch.Updates

/-! Batch updating against immediate writes. The persisted columns and the amounts still pending,
in the stores and in a store that is being written, add up to the first values and all operations;
once a flush has emptied the stores, the columns are those of immediate writes. The time of a
token's last change is the time of the flush. -/

namespace Tokengine.Batch
open Model.Database Runs List Function Option

inductive Column
  | userQuota | userUsedQuota | userRequestCount | tokenRemainQuota | tokenUsedQuota | channelUsedQuota
deriving DecidableEq

def Column.kind : Column → BatchUpdateType
  | .userQuota => .userQuota
  | .userUsedQuota => .usedQuota
  | .userRequestCount => .requestCount
  | .tokenRemainQuota => .tokenQuota
  | .tokenUsedQuota => .tokenQuota
  | .channelUsedQuota => .channelUsedQuota

def Column.sign : Column → Int
  | .tokenUsedQuota => -1
  | _ => 1

def Tables.value (tables : Tables) (column : Column) (id : Int) : Option Int :=
  match column with
  | .userQuota => (tables.users.lookup id).map User.quota
  | .userUsedQuota => (tables.users.lookup id).map User.usedQuota
  | .userRequestCount => (tables.users.lookup id).map User.requestCount
  | .tokenRemainQuota => (tables.tokens.lookup id).map fun token => token.remainQuota
  | .tokenUsedQuota => (tables.tokens.lookup id).map fun token => token.usedQuota
  | .channelUsedQuota => (tables.channels.lookup id).map Channel.usedQuota

def Statement.target : Statement → Int
  | .increaseUserQuota id _ | .decreaseUserQuota id _ | .increaseTokenQuota id _ | .decreaseTokenQuota id _
  | .updateUserUsedQuota id _ | .updateUserRequestCount id _ | .updateUserUsedQuotaAndRequestCount id _ _
  | .updateChannelUsedQuota id _ => id

def Statement.delta (column : Column) : Statement → Int
  | .increaseUserQuota _ quota => if column = .userQuota then quota else 0
  | .decreaseUserQuota _ quota => if column = .userQuota then -quota else 0
  | .increaseTokenQuota _ quota =>
    if column = .tokenRemainQuota then quota else if column = .tokenUsedQuota then -quota else 0
  | .decreaseTokenQuota _ quota =>
    if column = .tokenRemainQuota then -quota else if column = .tokenUsedQuota then quota else 0
  | .updateUserUsedQuota _ quota => if column = .userUsedQuota then quota else 0
  | .updateUserRequestCount _ count => if column = .userRequestCount then count else 0
  | .updateUserUsedQuotaAndRequestCount _ quota count =>
    if column = .userUsedQuota then quota else if column = .userRequestCount then count else 0
  | .updateChannelUsedQuota _ quota => if column = .channelUsedQuota then quota else 0

def Action.effect (column : Column) (id : Int) : Action → Int
  | .addNewRecord kind target value => if id = target ∧ column.kind = kind then column.sign * value else 0
  | .statement update => if id = update.target then update.delta column else 0

def effects (actions : List Action) (column : Column) (id : Int) : Int :=
  (actions.map (Action.effect column id)).sum

def Phase.inFlight (phase : Phase) (kind : BatchUpdateType) (id : Int) : Int :=
  match phase with
  | .writing swapped entries => if swapped = kind then Deltas.entriesTotal entries id else 0
  | _ => 0

def Node.pending (node : Node) (column : Column) (id : Int) : Int :=
  column.sign * (Deltas.total (node.batchUpdateStores column.kind) id + node.phase.inFlight column.kind id)

def Node.Flushed (node : Node) : Prop := node.phase = .idle ∧ ∀ kind, (node.batchUpdateStores kind).rows = []

/-! ### Statements and actions -/

theorem value_exec (now : Int) (tables : Tables) (statement : Statement) (column : Column) (id : Int) :
    (statement.exec now tables).value column id =
      (tables.value column id).map (· + if id = statement.target then statement.delta column else 0) := by
  have untouched : ∀ value : Option Int, value = value.map (· + if id = statement.target then 0 else 0) := by
    intro value
    simp
  cases statement <;> cases column <;> simp only [Statement.exec, Tables.value, Statement.target] <;>
    first
      | exact untouched _
      | apply Table.map_lookup_update
        · exact fun _ => rfl
        · intro row
          simp [Statement.delta, Int.sub_eq_add_neg]

variable (kind)

theorem delta_flushStatement (id value : Int) (column : Column) :
    (flushStatement kind id value).delta column = if column.kind = kind then column.sign * value else 0 := by
  cases kind <;> cases column <;> simp [flushStatement, Statement.delta, Column.kind, Column.sign]

theorem target_flushStatement (id value : Int) : (flushStatement kind id value).target = id := by
  cases kind <;> rfl

theorem effects_append (first second : List Action) (column : Column) (id : Int) :
    effects (first ++ second) column id = effects first column id + effects second column id := by
  simp [effects]

theorem effects_singleton (action : Action) (column : Column) (id : Int) :
    effects [action] column id = action.effect column id := by
  simp [effects]

theorem effect_addNewRecord (target value : Int) (column : Column) (id : Int) :
    Action.effect column id (.addNewRecord kind target value) =
      Action.effect column id (.statement (flushStatement kind target value)) := by
  simp only [Action.effect, target_flushStatement, delta_flushStatement, ite_and]

variable {kind}

theorem effect_decreaseTokenQuota (target quota : Int) (column : Column) (id : Int) :
    Action.effect column id (.statement (.increaseTokenQuota target (-quota))) =
      Action.effect column id (.statement (.decreaseTokenQuota target quota)) := by
  cases column <;> simp [Action.effect, Statement.target, Statement.delta]

theorem effect_usedQuotaAndRequestCount (target quota count : Int) (column : Column) (id : Int) :
    Action.effect column id (.statement (.updateUserUsedQuota target quota)) +
        Action.effect column id (.statement (.updateUserRequestCount target count)) =
      Action.effect column id (.statement (.updateUserUsedQuotaAndRequestCount target quota count)) := by
  cases column <;> simp [Action.effect, Statement.target, Statement.delta]

section Performed

variable (column : Column) (id : Int) {kind : BatchUpdateType}

/-- Refused, recorded or written at once, a change counts as the statement that writes it. -/
theorem effects_recorded {negative : Prop} [Decidable negative] {error : String} {target value : Int}
    {update : Statement} (same : Action.effect column id (.statement (flushStatement kind target value)) =
      Action.effect column id (.statement update)) (first second : Bool) :
    let performed (batched : Bool) : Except String (List Action) := if negative then .error error
      else if batched then .ok [.addNewRecord kind target value] else .ok [.statement update]
    effects ((performed first).toOption.getD []) column id = effects ((performed second).toOption.getD []) column id := by
  by_cases refused : negative
  · simp [refused]
  have counted : effects [.addNewRecord kind target value] column id = effects [.statement update] column id := by
    rw [effects_singleton, effects_singleton, effect_addNewRecord, same]
  cases first <;> cases second <;> simp [refused, Except.toOption, counted]

theorem effects_performed (operation : Operation) :
    effects (operation.performed true) column id = effects (operation.performed false) column id := by
  cases operation with
  | increaseUserQuota | decreaseUserQuota | increaseTokenQuota => exact effects_recorded column id (by rfl) _ _
  | deltaUpdateUserQuota target delta =>
    simp only [Operation.performed, Operation.actions, deltaUpdateUserQuota]
    split
    · rfl
    · split
      · exact effects_recorded column id (by rfl) _ _
      · exact effects_recorded column id (by rfl) _ _
  | decreaseTokenQuota target quota => exact effects_recorded column id (by exact effect_decreaseTokenQuota ..) _ _
  | updateUserUsedQuotaAndRequestCount target quota =>
    simp only [Operation.performed, Operation.actions, updateUserUsedQuotaAndRequestCount]
    simp [Except.toOption, effects, effect_addNewRecord, flushStatement, effect_usedQuotaAndRequestCount]
  | updateUserUsedQuota | updateChannelUsedQuota =>
    exact (effects_singleton ..).trans ((effect_addNewRecord ..).trans (effects_singleton ..).symm)

omit column id in
theorem performed_statements (operation : Operation) :
    ∀ action ∈ operation.performed false, ∃ statement, action = .statement statement := by
  have single : ∀ (statement : Statement) (action : Action), action ∈ [Action.statement statement] →
      ∃ statement, action = .statement statement := fun statement action mem => ⟨statement, mem_singleton.mp mem⟩
  intro action mem
  cases operation with
  | deltaUpdateUserQuota target delta =>
    simp only [Operation.performed, Operation.actions, deltaUpdateUserQuota, increaseUserQuota, decreaseUserQuota,
      Bool.and_false, Bool.false_eq_true, if_false] at mem
    split at mem
    · cases mem
    split at mem <;> split at mem
    · cases mem
    · exact single _ _ mem
    · cases mem
    · exact single _ _ mem
  | updateUserUsedQuotaAndRequestCount | updateUserUsedQuota | updateChannelUsedQuota => exact single _ _ mem
  | _ =>
    simp only [Operation.performed, Operation.actions, increaseUserQuota, decreaseUserQuota, increaseTokenQuota,
      decreaseTokenQuota, Bool.and_false, Bool.false_eq_true, if_false] at mem
    split at mem
    · cases mem
    · exact single _ _ mem

end Performed

/-! ### Runs -/

def Accounted (first : Tables) (actions : List Action) (node : Node) : Prop :=
  ∀ column id, node.tables.value column id =
    (first.value column id).map (· + (effects actions column id - node.pending column id))

theorem accounted_start (tables : Tables) : Accounted tables [] (.start tables) := by
  intro column id
  have none : effects [] column id - (Node.start tables).pending column id = 0 := by
    simp [effects, Node.pending, Node.start, Phase.inFlight]
  rw [none]
  simp [Node.start]

variable {first : Tables} {actions done : List Action} {node next : Node}

theorem pending_addNewRecord (now : Int) (node : Node) (kind : BatchUpdateType) (target value : Int) (column : Column)
    (id : Int) : (node.act now (.addNewRecord kind target value)).pending column id =
      node.pending column id + Action.effect column id (.addNewRecord kind target value) := by
  simp only [Node.pending, Node.act, Action.effect]
  by_cases own : column.kind = kind
  · subst own
    simp only [update_self, Deltas.total_add]
    by_cases same : id = target
    · simp only [same, if_true, and_self]
      rw [Int.add_right_comm, Int.mul_add]
    · simp [same]
  · simp [own]

section

variable (accounted : Accounted first actions node) {pick : Nat} {labels : List Label}
include accounted

theorem accounted_act (now : Int) (action : Action) : Accounted first (actions ++ [action]) (node.act now action) := by
  intro column id
  rw [effects_append, effects_singleton]
  cases action with
  | addNewRecord kind target value =>
    have unchanged := accounted column id
    rw [pending_addNewRecord]
    have same : effects actions column id + Action.effect column id (.addNewRecord kind target value) -
        (node.pending column id + Action.effect column id (.addNewRecord kind target value)) =
        effects actions column id - node.pending column id := by omega
    rw [same]
    exact unchanged
  | statement statement =>
    have before := accounted column id
    calc
      _ = (node.tables.value column id).map (· + if id = statement.target then statement.delta column else 0) :=
        value_exec now node.tables statement column id
      _ = _ := by
        rw [before, Option.map_map]
        congr 1
        funext value
        simp only [Function.comp, Action.effect]
        have same : (node.act now (.statement statement)).pending column id = node.pending column id := rfl
        omega

theorem accounted_quiet {phase : Phase}
    (before : ∀ kind id, node.phase.inFlight kind id = 0) (after : ∀ kind id, phase.inFlight kind id = 0) :
    Accounted first actions { node with phase := phase } := by
  intro column id
  have accts := accounted column id
  simp only [Node.pending, before] at accts
  simpa only [Node.pending, after] using accts

theorem accounted_swap (phase : node.phase = .swapping kind) : Accounted first actions { node with
        batchUpdateStores := update node.batchUpdateStores kind .empty
        phase := .writing kind (node.batchUpdateStores kind).rows } := by
  intro column id
  have accts := accounted column id
  simp only [Node.pending, phase, Phase.inFlight] at accts
  simp only [Node.pending, Phase.inFlight]
  by_cases own : column.kind = kind
  · subst own
    simpa [Deltas.entriesTotal_rows] using accts
  · simpa [own, Ne.symm own] using accts

theorem accounted_write {entries : List (Int × Int)}
    (phase : node.phase = .writing kind entries) {entry : Int × Int} (found : entries[pick]? = some entry) (now : Int) :
    Accounted first actions { node with
        tables := (flushStatement kind entry.1 entry.2).exec now node.tables
        phase := .writing kind (entries.eraseIdx pick) } := by
  intro column id
  have before := accounted column id
  rw [value_exec, target_flushStatement, delta_flushStatement, before, Option.map_map]
  congr 1
  funext value
  simp only [Function.comp, Node.pending, phase, Phase.inFlight]
  by_cases own : column.kind = kind
  · subst own
    rw [Deltas.entriesTotal_eraseIdx found id]
    by_cases same : id = entry.1
    · simp only [same, if_true]
      ring
    · simp [same]
  · simp [own, Ne.symm own]

theorem accounted_flush {now : Int} (taken : node.flush now pick = some next) : Accounted first actions next := by
  unfold Node.flush at taken
  split at taken
  next idle =>
    cases taken
    exact accounted_quiet accounted (fun _ _ => by rw [idle]; rfl) (fun _ _ => rfl)
  next kind checking =>
    have nothing : ∀ kind id, node.phase.inFlight kind id = 0 := fun _ _ => by rw [checking]; rfl
    split at taken
    · cases taken
      exact accounted_quiet accounted nothing (fun _ _ => rfl)
    cases taken
    cases nextType kind <;> exact accounted_quiet accounted nothing (fun _ _ => rfl)
  next swapping =>
    cases taken
    exact accounted_swap accounted swapping
  next kind _ writing =>
  split at taken
  next done =>
    cases taken
    have nothing : ∀ kind id, node.phase.inFlight kind id = 0 := fun _ _ => by simp [writing, done, Phase.inFlight]
    cases nextType kind <;> exact accounted_quiet accounted nothing (fun _ _ => rfl)
  · obtain ⟨entry, found, rfl⟩ := map_eq_some_iff.mp taken
    exact accounted_write accounted writing found now

theorem accounted_run (run : exec step node labels = some next) : Accounted first (actions ++ acted labels) next := by
  induction labels generalizing node actions with
  | nil =>
    cases run
    simpa [acted] using accounted
  | cons label rest tail =>
    obtain ⟨middle, taken, remaining⟩ := exec_cons run
    cases label with
    | act now action =>
      cases taken
      have later := tail (accounted_act accounted now action) remaining
      simpa [acted] using later
    | flush now pick => exact tail (accounted_flush accounted taken) remaining

end

/-! ### Immediate writes -/

theorem effects_performed_flatMap (batchUpdateEnabled : Bool) (operations : List (Int × Operation)) (column : Column)
    (id : Int) : effects (operations.flatMap fun timed => timed.2.performed batchUpdateEnabled) column id =
      (operations.map fun timed => effects (timed.2.performed batchUpdateEnabled) column id).sum := by
  induction operations with
  | nil => rfl
  | cons timed rest tail => rw [flatMap_cons, effects_append, tail, map_cons, sum_cons]

theorem accounted_acts (accounted : Accounted first done node) (now : Int)
    (actions : List Action) : Accounted first (done ++ actions) (actions.foldl (Node.act now) node) := by
  induction actions generalizing done node with
  | nil => simpa using accounted
  | cons action rest tail =>
    have later := tail (accounted_act accounted now action)
    simpa using later

theorem accounted_operations (accounted : Accounted first done node) (operations : List (Int × Operation)) :
    Accounted first (done ++ operations.flatMap fun timed => timed.2.performed false)
      (operations.foldl (fun node timed => (timed.2.performed false).foldl (Node.act timed.1) node) node) := by
  induction operations generalizing done node with
  | nil => simpa using accounted
  | cons timed rest tail =>
    have later := tail (accounted_acts accounted timed.1 (timed.2.performed false))
    simpa using later

theorem flushed_statements (flushed : node.Flushed) (now : Int) {actions : List Action}
    (statements : ∀ action ∈ actions, ∃ statement, action = .statement statement) :
    (actions.foldl (Node.act now) node).Flushed := by
  induction actions generalizing node with
  | nil => exact flushed
  | cons action rest tail =>
    obtain ⟨statement, rfl⟩ := statements action mem_cons_self
    apply tail _ fun other mem => statements other (mem_cons_of_mem _ mem)
    exact flushed

theorem flushed_direct (tables : Tables) (operations : List (Int × Operation)) : (direct tables operations).Flushed := by
  have started : (Node.start tables).Flushed := ⟨rfl, fun _ => rfl⟩
  unfold direct
  generalize Node.start tables = node at started
  induction operations generalizing node with
  | nil => exact started
  | cons timed rest tail => exact tail _ (flushed_statements started timed.1 (performed_statements timed.2))

theorem pending_flushed (flushed : node.Flushed) (column : Column) (id : Int) : node.pending column id = 0 := by
  have empty : Deltas.total (node.batchUpdateStores column.kind) id = 0 := by
    rw [← Deltas.entriesTotal_rows, flushed.2]
    rfl
  simp [Node.pending, empty, flushed.1, Phase.inFlight]

/-! ### A flush comes to its end -/

/-- Steps of `batchUpdate` alone lead from one node to another. -/
def Flushes (node next : Node) : Prop :=
  ∃ steps : List (Int × Nat), exec step node (steps.map fun timed => .flush timed.1 timed.2) = some next

theorem Flushes.refl (node : Node) : Flushes node node := ⟨[], rfl⟩

theorem Flushes.cons {middle next : Node} {now : Int} (taken : node.flush now pick = some middle)
    (later : Flushes middle next) : Flushes node next := by
  obtain ⟨steps, run⟩ := later
  refine ⟨(now, pick) :: steps, ?_⟩
  rw [map_cons, exec]
  simp [step, taken, run]

theorem Flushes.trans {middle next : Node} (first : Flushes node middle) (later : Flushes middle next) :
    Flushes node next := by
  obtain ⟨steps, run⟩ := first
  induction steps generalizing node with
  | nil =>
    cases run
    exact later
  | cons timed rest tail =>
    obtain ⟨other, taken, remaining⟩ := exec_cons run
    exact .cons taken (tail remaining)

theorem flushes_entries (entries : List (Int × Int)) (phase : node.phase = .writing kind entries) :
    ∃ tables, Flushes node { node with tables, phase := .writing kind [] } := by
  induction entries generalizing node with
  | nil =>
    refine ⟨node.tables, ?_⟩
    rw [← phase]
    exact .refl node
  | cons entry rest tail =>
    let middle : Node :=
      { node with
        tables := (flushStatement kind entry.1 entry.2).exec 0 node.tables, phase := .writing kind rest }
    have taken : node.flush 0 0 = some middle := by simp [Node.flush, phase, middle]
    have writing : middle.phase = .writing kind rest := rfl
    obtain ⟨tables, later⟩ := tail writing
    exact ⟨tables, .cons taken later⟩

def typesLeft : BatchUpdateType → Nat
  | .userQuota => 4
  | .tokenQuota => 3
  | .usedQuota => 2
  | .channelUsedQuota => 1
  | .requestCount => 0

theorem typesLeft_next {next : BatchUpdateType} (follows : nextType kind = some next) :
    typesLeft kind = typesLeft next + 1 := by
  cases kind <;> cases follows <;> rfl

theorem typesLeft_last (last : nextType kind = none) : typesLeft kind = 0 := by
  cases kind <;> first | rfl | cases last

theorem typesLeft_inj {other : BatchUpdateType} (same : typesLeft kind = typesLeft other) : kind = other := by
  cases kind <;> cases other <;> first | rfl | cases same

theorem flushes_store (phase : node.phase = .swapping kind) :
    ∃ next, Flushes node next ∧ next.phase = (nextType kind).elim .idle .swapping ∧
      next.batchUpdateStores = update node.batchUpdateStores kind .empty := by
  let swapped : Node :=
    { node with
      batchUpdateStores := update node.batchUpdateStores kind .empty
      phase := .writing kind (node.batchUpdateStores kind).rows }
  have taken : node.flush 0 0 = some swapped := by simp [Node.flush, phase, swapped]
  have writing : swapped.phase = .writing kind (node.batchUpdateStores kind).rows := rfl
  obtain ⟨tables, written⟩ := flushes_entries _ writing
  let done : Node := { swapped with tables, phase := .writing kind [] }
  have last : done.flush 0 0 = some { done with phase := (nextType kind).elim .idle .swapping } := rfl
  exact ⟨_, .cons taken (written.trans (.cons last (.refl _))), rfl, rfl⟩

/-- From a swap on, `batchUpdate` empties the stores that are left and leaves the others alone. -/
theorem flushes_swapping (phase : node.phase = .swapping kind) : ∃ next, Flushes node next ∧ next.phase = .idle ∧ ∀ other,
      (typesLeft other ≤ typesLeft kind → (next.batchUpdateStores other).rows = []) ∧
      (typesLeft kind < typesLeft other → next.batchUpdateStores other = node.batchUpdateStores other) := by
  induction left : typesLeft kind using Nat.strong_induction_on generalizing node kind with
  | _ n tail =>
    obtain ⟨middle, flushes, swapping, swapped⟩ := flushes_store phase
    have emptied : (middle.batchUpdateStores kind).rows = [] := by simp [swapped, Table.empty]
    have kept : ∀ other, n < typesLeft other → middle.batchUpdateStores other = node.batchUpdateStores other := by
      intro other more
      have ne : other ≠ kind := by
        rintro rfl
        omega
      simp [swapped, ne]
    cases follows : nextType kind with
    | none =>
      have last := typesLeft_last follows
      rw [follows] at swapping
      refine ⟨middle, flushes, swapping, fun other => ⟨fun fits => ?_, kept other⟩⟩
      have same : other = kind := typesLeft_inj (by omega)
      exact same ▸ emptied
    | some following =>
      have fewer := typesLeft_next follows
      rw [follows] at swapping
      obtain ⟨next, later, idle, stores⟩ := tail _ (by omega) swapping rfl
      refine ⟨next, flushes.trans later, idle, fun other =>
        ⟨fun fits => ?_, fun more => ((stores other).2 (by omega)).trans (kept other more)⟩⟩
      by_cases same : other = kind
      · rw [(stores other).2 (by rw [same]; omega), same, emptied]
      · have smaller : typesLeft other ≠ typesLeft kind := fun hit => same (typesLeft_inj hit)
        exact (stores other).1 (by omega)

theorem typesLeft_le (kind : BatchUpdateType) : typesLeft kind ≤ typesLeft .userQuota := by
  cases kind <;> decide

theorem flushes_data (phase : node.phase = .checking kind)
    (data : (node.batchUpdateStores kind).rows ≠ []) : ∃ next, Flushes node next ∧ next.Flushed := by
  let found : Node := { node with phase := .swapping .userQuota }
  have taken : node.flush 0 0 = some found := by simp [Node.flush, phase, data, found]
  have swapping : found.phase = .swapping .userQuota := rfl
  obtain ⟨next, flushes, idle, stores⟩ := flushes_swapping swapping
  exact ⟨next, .cons taken flushes, idle, fun kind => (stores kind).1 (typesLeft_le kind)⟩

/-- A call that looks for data from one type on ends; if the types before had none, it ends with empty stores. -/
theorem flushes_checking (phase : node.phase = .checking kind) : ∃ next, Flushes node next ∧ next.phase = .idle ∧
      ((∀ other, typesLeft kind < typesLeft other → (node.batchUpdateStores other).rows = []) → next.Flushed) := by
  induction left : typesLeft kind using Nat.strong_induction_on generalizing node kind with
  | _ n tail =>
    by_cases data : (node.batchUpdateStores kind).rows = []
    · have emptied : (∀ other, n < typesLeft other → (node.batchUpdateStores other).rows = []) →
          ∀ other, n ≤ typesLeft other → (node.batchUpdateStores other).rows = [] := by
        intro empty other enough
        by_cases same : other = kind
        · exact same ▸ data
        · have ne : typesLeft other ≠ typesLeft kind := fun hit => same (typesLeft_inj hit)
          exact empty other (by omega)
      cases follows : nextType kind with
      | none =>
        have last := typesLeft_last follows
        let done : Node := { node with phase := .idle }
        have taken : node.flush 0 0 = some done := by simp [Node.flush, phase, data, follows, done]
        exact ⟨done, .cons taken (.refl _), rfl, fun empty => ⟨rfl, fun other => emptied empty other (by omega)⟩⟩
      | some following =>
        have fewer := typesLeft_next follows
        let middle : Node := { node with phase := .checking following }
        have taken : node.flush 0 0 = some middle := by simp [Node.flush, phase, data, follows, middle]
        have checking : middle.phase = .checking following := rfl
        obtain ⟨next, flushes, idle, flushed⟩ := tail _ (by omega) checking rfl
        exact ⟨next, .cons taken flushes, idle, fun empty => flushed fun other more => emptied empty other (by omega)⟩
    · obtain ⟨next, flushes, flushed⟩ := flushes_data phase data
      exact ⟨next, flushes, flushed.1, fun _ => flushed⟩

/-- Wherever `batchUpdate` stands, its call ends. -/
theorem flushes_idle (node : Node) : ∃ next, Flushes node next ∧ next.phase = .idle := by
  cases phase : node.phase with
  | idle => exact ⟨node, .refl node, phase⟩
  | checking kind =>
    obtain ⟨next, flushes, idle, _⟩ := flushes_checking phase
    exact ⟨next, flushes, idle⟩
  | swapping kind =>
    obtain ⟨next, flushes, idle, _⟩ := flushes_swapping phase
    exact ⟨next, flushes, idle⟩
  | writing kind entries =>
    obtain ⟨tables, written⟩ := flushes_entries entries phase
    let done : Node := { node with tables, phase := .writing kind [] }
    let middle : Node := { done with phase := (nextType kind).elim .idle .swapping }
    have last : done.flush 0 0 = some middle := rfl
    cases follows : nextType kind with
    | none => exact ⟨middle, written.trans (.cons last (.refl _)), by simp [middle, follows]⟩
    | some following =>
      have swapping : middle.phase = .swapping following := by simp [middle, follows]
      obtain ⟨next, flushes, idle, _⟩ := flushes_swapping swapping
      exact ⟨next, written.trans (.cons last flushes), idle⟩

theorem flushes_flushed (node : Node) : ∃ next, Flushes node next ∧ next.Flushed := by
  obtain ⟨middle, first, idle⟩ := flushes_idle node
  let called : Node := { middle with phase := .checking .userQuota }
  have taken : middle.flush 0 0 = some called := by simp [Node.flush, idle, called]
  have checking : called.phase = .checking .userQuota := rfl
  obtain ⟨next, flushes, _, flushed⟩ := flushes_checking checking
  refine ⟨next, first.trans (.cons taken flushes), flushed fun other more => ?_⟩
  have least := typesLeft_le other
  omega

/-! ### Main result -/

/-- Any run of actions and flush steps from any tables: the persisted columns and what is pending add up
to the first columns and the actions so far; if the actions are those of some operations, the
columns after a flush are the ones the same operations write at once; and a flush always gets there. -/
theorem batch_refines_direct {node : Node} (run : exec step (.start first) labels = some node) :
    (∀ column id value, first.value column id = some value → ∃ persisted, node.tables.value column id = some persisted ∧
        persisted + node.pending column id = value + effects (acted labels) column id) ∧
      (∀ operations : List (Int × Operation),
        (acted labels).Perm (operations.flatMap fun timed => timed.2.performed true) → node.Flushed →
          ∀ column id, node.tables.value column id = (direct first operations).tables.value column id) ∧
      ∃ next, Flushes node next ∧ next.Flushed := by
  have accounted : Accounted first (acted labels) node := accounted_run (accounted_start first) run
  refine ⟨?_, ?_, flushes_flushed node⟩
  · intro column id value present
    refine ⟨value + (effects (acted labels) column id - node.pending column id), ?_, by omega⟩
    rw [accounted column id, present]
    rfl
  · intro operations same flushed column id
    have written := accounted_operations (accounted_start first) operations column id
    have settled := pending_flushed (flushed_direct first operations) column id
    unfold direct at settled
    have total : effects (acted labels) column id =
        effects (operations.flatMap fun timed => timed.2.performed false) column id := by
      calc
        _ = effects (operations.flatMap fun timed => timed.2.performed true) column id :=
          (same.map (Action.effect column id)).sum_eq
        _ = _ := by
          rw [effects_performed_flatMap, effects_performed_flatMap]
          simp only [effects_performed]
    rw [accounted column id, pending_flushed flushed]
    unfold direct
    rw [written, settled, nil_append, total]

instance (node : Node) : Decidable node.Flushed :=
  decidable_of_iff (node.phase = .idle ∧
      ∀ kind ∈ ([.userQuota, .tokenQuota, .usedQuota, .channelUsedQuota, .requestCount] : List BatchUpdateType),
        (node.batchUpdateStores kind).rows = [])
    (and_congr_right fun _ => ⟨fun listed kind => listed kind (by cases kind <;> simp), fun all kind _ => all kind⟩)

def freshToken : Token := ⟨⟨3, "", 100, 0, false, 0⟩, 0⟩

def tokenTables : Tables := ⟨.empty, Table.empty.save freshToken, .empty⟩

def chargeThenFlush : List Label := .act 5 (.addNewRecord .tokenQuota 3 (-30)) :: replicate 14 (.flush 10 0)

theorem chargeThenFlush_flushes : ∃ node, exec step (.start tokenTables) chargeThenFlush = some node ∧ node.Flushed ∧
      (node.tables.tokens.lookup 3).map Token.accessedTime = some 10 := by
  have evaluated : (exec step (.start tokenTables) chargeThenFlush).map
      (fun node => decide (node.Flushed ∧ (node.tables.tokens.lookup 3).map Token.accessedTime = some 10)) =
        some true := by decide +kernel
  obtain ⟨node, run, ends⟩ := map_eq_some_iff.mp evaluated
  exact ⟨node, run, of_decide_eq_true ends⟩

theorem batch_refines_direct_charge : ∃ node, exec step (.start tokenTables) chargeThenFlush = some node ∧ node.Flushed ∧
      node.tables.value .tokenRemainQuota 3 = some 70 := by
  obtain ⟨node, run, flushed, _⟩ := chargeThenFlush_flushes
  have same := (batch_refines_direct run).2.1 [(5, .decreaseTokenQuota 3 30)] (by decide) flushed .tokenRemainQuota 3
  refine ⟨node, run, flushed, same.trans ?_⟩
  decide +kernel

/-- After a flush a token's `accessed_time` is that of the flush, and not that of the operation. -/
theorem batch_accessed_time_differs : ∃ node, exec step (.start tokenTables) chargeThenFlush = some node ∧ node.Flushed ∧
      node.tables ≠ (direct tokenTables [(5, .decreaseTokenQuota 3 30)]).tables := by
  obtain ⟨node, run, flushed, time⟩ := chargeThenFlush_flushes
  refine ⟨node, run, flushed, fun same => ?_⟩
  have direct : (((direct tokenTables [(5, .decreaseTokenQuota 3 30)]).tables.tokens.lookup 3).map Token.accessedTime) =
      some 5 := by decide +kernel
  rw [same, direct] at time
  cases time

end Tokengine.Batch
