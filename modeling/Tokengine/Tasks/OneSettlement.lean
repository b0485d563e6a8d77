import Tokengine.Tasks.Polling

/-! Concurrent updates of one video task. Every update decides from a snapshot of its own, but only
the one whose guarded update moved the task to its final status bills it. -/

namespace Tokengine.Tasks.OneSettlement
open Interleaving Model.Database Polling List Function Table

inductive Invocation where
  | video (decoder : Decoder) (ch : PollChannel) (now : Int) (limit : Nat) (taskId : Int) (resp : VideoResponse)
  | sweep (timeoutMinutes now : Int)

def Invocation.script : Invocation → Poller Unit
  | .video decoder ch now limit taskId resp => do
    let tasks ← ask (Statement.findUnfinished limit)
    match (tasks : List Task).find? (fun task => decide (task.id = taskId)) with
    | some task => do
      let _ ← updateVideoSingleTask decoder ch now resp task
      pure ()
    | none => pure ()
  | .sweep timeoutMinutes now => sweepTimedOutTasks timeoutMinutes now

def start (tasks : Table Task.id) (world : World) (faults : List (Option String)) (invocations : List Invocation) :
    Machine Answer Shared (Except String Unit) :=
  ⟨⟨tasks, world, faults, []⟩, invocations.map Invocation.script⟩

def billed (taskId : Int) (history : List Event) : List Event :=
  history.filter fun event => decide (event.taskId = taskId) && decide (event.kind ≠ .won)

section Discipline

variable (target : Int)

abbrev Account := Bool

def allowed (acct : Account) : Statement → Prop
  | .updateWithStatus fromStatus task => task.id = target → fromStatus.terminal = false
  | .update _ => False
  | .bulkUpdate _ _ => False
  | .refund task => task.id = target → acct = true
  | .settle task _ => task.id = target → acct = true
  | _ => True

def answered (_ : Account) : (stmt : Statement) → Answer stmt → Prop
  | .findTimedOut _ _, tasks => ∀ task ∈ tasks, task.status.terminal = false
  | .findUnfinished _, tasks => ∀ task ∈ tasks, task.status.terminal = false
  | _, _ => True

def track (acct : Account) : (stmt : Statement) → Answer stmt → Account
  | .updateWithStatus _ task, .ok true => acct || (decide (task.id = target) && task.status.terminal)
  | .refund task, _ => acct && decide (task.id ≠ target)
  | .settle task _, _ => acct && decide (task.id ≠ target)
  | _, _ => acct

def discipline : Discipline Answer Account := ⟨allowed target, answered, track target⟩

end Discipline

/-- At most one process holds the right to bill the task or has used it, and only once the task is final. -/
structure Held (target : Int) (final : Option TaskStatus) (shared : Shared) (accts : Nat → Account) : Prop where
  untouched : (∀ row, shared.tasks.lookup target = some row → row.status.terminal = false) →
    (∀ pid, accts pid = false) ∧ billed target shared.history = []
  exclusive : ∀ pid pid', accts pid = true → accts pid' = true → pid = pid'
  unused : ∀ pid, accts pid = true → billed target shared.history = []
  once : (billed target shared.history).length ≤ 1
  holder : ∀ pid, accts pid = true → ⟨pid, .won, target⟩ ∈ shared.history
  biller : ∀ event ∈ billed target shared.history, ⟨event.pid, .won, target⟩ ∈ shared.history
  final : ∀ status, final = some status → status.terminal = true ∧
    ∃ row, shared.tasks.lookup target = some row ∧ row.status = status

variable {target : Int} {final : Option TaskStatus} {shared after : Shared} {accts : Nat → Account} {pid : Nat}
  {task : Task}

theorem billed_other {event : Event} (other : event.taskId ≠ target) (history : List Event) :
    billed target (event :: history) = billed target history := by
  simp [billed, other]

theorem billed_won (pid : Nat) (taskId : Int) (history : List Event) :
    billed target (⟨pid, .won, taskId⟩ :: history) = billed target history := by
  simp [billed]

theorem billed_bill {kind : EventKind} (bills : kind ≠ .won) (pid : Nat) (history : List Event) :
    billed target (⟨pid, kind, target⟩ :: history) = ⟨pid, kind, target⟩ :: billed target history := by
  simp [billed, bills]

theorem Held.carry (held : Held target final shared accts) (row : after.tasks.lookup target = shared.tasks.lookup target)
    (same : billed target after.history = billed target shared.history)
    (grows : ∀ event ∈ shared.history, event ∈ after.history) : Held target final after accts where
  untouched := by
    rw [row, same]
    exact held.untouched
  exclusive := held.exclusive
  unused := by
    rw [same]
    exact held.unused
  once := by
    rw [same]
    exact held.once
  holder pid mine := grows _ (held.holder pid mine)
  biller := by
    rw [same]
    exact fun event mem => grows _ (held.biller event mem)
  final := by
    rw [row]
    exact held.final

theorem Held.win (held : Held target final shared accts) {row : Task} (mine : task.id = target)
    (found : shared.tasks.lookup target = some row) (unfinished : row.status.terminal = false)
    (tasks : after.tasks = shared.tasks.save task) (history : after.history = ⟨pid, .won, target⟩ :: shared.history) :
    Held target final after (update accts pid (accts pid || task.status.terminal)) := by
  obtain ⟨idle, unbilled⟩ := held.untouched (by rintro other same; cases found.symm.trans same; exact unfinished)
  have stored : after.tasks.lookup target = some task := by
    rw [tasks, ← mine]
    exact lookup_save_self _ _
  have nothing : billed target after.history = [] := by rw [history, billed_won, unbilled]
  have onlyMe : ∀ other, update accts pid (accts pid || task.status.terminal) other = true →
      other = pid ∧ task.status.terminal = true := by
    rw [forall_update_iff accts (fun other acct => acct = true → other = pid ∧ task.status.terminal = true)]
    refine ⟨fun holds => ⟨rfl, ?_⟩, fun other _ holds => ?_⟩
    · rw [idle pid, Bool.false_or] at holds
      exact holds
    · rw [idle other] at holds
      cases holds
  refine ⟨fun open' => ⟨fun other => ?_, nothing⟩, fun first second holds holds' => ?_, fun _ _ => nothing, ?_,
    fun other holds => ?_, ?_, fun status ended => ?_⟩
  · by_contra holds
    have ended := (onlyMe other (Bool.not_eq_false _ ▸ holds)).2
    rw [open' task stored] at ended
    cases ended
  · rw [(onlyMe first holds).1, (onlyMe second holds').1]
  · rw [nothing]
    exact Nat.zero_le 1
  · rw [(onlyMe other holds).1, history]
    exact mem_cons_self
  · rw [nothing]
    nofun
  · obtain ⟨terminal, stored', same, is⟩ := held.final status ended
    cases found.symm.trans same
    rw [is, terminal] at unfinished
    cases unfinished

theorem Held.bill (held : Held target final shared accts) {kind : EventKind} (bills : kind ≠ .won)
    (kept : task.id = target → accts pid = true) (tasks : after.tasks = shared.tasks)
    (history : after.history = ⟨pid, kind, task.id⟩ :: shared.history) :
    Held target final after (update accts pid (accts pid && decide (task.id ≠ target))) := by
  by_cases other : task.id ≠ target
  · rw [decide_eq_true other, Bool.and_true, update_eq_self]
    refine held.carry (by rw [tasks]) ?_ ?_
    · rw [history]
      exact billed_other other _
    · rw [history]
      exact fun _ listed => mem_cons_of_mem _ listed
  rw [decide_eq_false other, Bool.and_false]
  rw [not_not.mp other] at history kept
  have mine := kept rfl
  have event : billed target after.history = [⟨pid, kind, target⟩] := by
    rw [history, billed_bill bills, held.unused pid mine]
  have nobody : ∀ other, update accts pid false other = false := by
    rw [forall_update_iff accts (fun _ acct => acct = false)]
    refine ⟨rfl, fun other ne => ?_⟩
    by_contra holds
    exact ne (held.exclusive other pid (Bool.not_eq_false _ ▸ holds) mine)
  refine ⟨fun open' => ?_, fun first _ holds _ => ?_, fun other holds => ?_, ?_, fun other holds => ?_, ?_, ?_⟩
  · rw [tasks] at open'
    rw [(held.untouched open').1 pid] at mine
    cases mine
  iterate 2
    · rw [nobody] at holds
      cases holds
  · rw [event]
    exact Nat.le_refl 1
  · rw [nobody] at holds
    cases holds
  · rw [event, history]
    intro billing mem
    rw [mem_singleton] at mem
    rw [mem]
    exact mem_cons_of_mem _ (held.holder pid mine)
  · rw [tasks]
    exact held.final

theorem held_preserved (pricing : Pricing) (target : Int) (final : Option TaskStatus) (count : Nat) :
    Preserved (exec pricing) (fun _ => discipline target) (Held target final) (fun _ _ _ => True) count := by
  intro pid shared accts stmt answer after _ held kept _ ran
  have still : Held target final shared (update accts pid (accts pid)) := by
    rw [update_eq_self]
    exact held
  cases exec_effect ran with
  | timedOut cutoff limit tasks found =>
    refine ⟨fun task mem => ?_, still.carry rfl rfl fun _ listed => listed⟩
    exact unfinished_status (read_unfinished timedOut_unfinished found task mem)
  | unfinished limit tasks found =>
    refine ⟨fun task mem => ?_, still.carry rfl rfl fun _ listed => listed⟩
    exact unfinished_status (read_unfinished id found task mem)
  | refused | lost => exact ⟨trivial, still.carry rfl rfl fun _ listed => listed⟩
  | won task row found =>
    refine ⟨trivial, ?_⟩
    change Held target final _ (update accts pid
      (accts pid || (decide (task.id = target) && task.status.terminal)))
    by_cases mine : task.id = target
    · rw [decide_eq_true mine, Bool.true_and]
      rw [mine] at found
      exact held.win mine found (kept mine) rfl (by rw [mine])
    · rw [decide_eq_false mine, Bool.false_and, Bool.or_false]
      apply still.carry
      · rw [lookup_save, if_neg (Ne.symm mine)]
      · exact billed_won _ _ _
      · exact fun _ listed => mem_cons_of_mem _ listed
  | notUpdated | updated | notBulkUpdated | bulkUpdated => cases kept
  | refunded task world =>
    refine ⟨trivial, ?_⟩
    have bills : EventKind.refunded task.quota ≠ .won := nofun
    exact held.bill bills kept rfl rfl
  | settled task taskResult answer world =>
    refine ⟨trivial, ?_⟩
    have bills : EventKind.settled ≠ .won := by decide
    exact held.bill bills kept rfl rfl

/-! Every invocation keeps to the discipline. -/

section Invocations

variable {acct : Account}

abbrev anyway {α : Type} : Account → α → Prop := fun _ _ => True

theorem meets_bill {taskResult : TaskInfo} (right : task.status.terminal = true → task.id = target → acct = true) :
    Script.Meets (discipline target) anyway (billVideoTask task taskResult) acct := by
  unfold billVideoTask
  split
  next success => exact meets_ask (right (by rw [success]; rfl)) fun _ _ => trivial
  next failure =>
    split
    · exact meets_ask (right (by rw [failure]; rfl)) fun _ _ => trivial
    · trivial
  · trivial

theorem meets_finish {snap : Task} (unfinished : snap.status.terminal = false) (taskResult : TaskInfo) :
    Script.Meets (discipline target) anyway (finishVideoUpdate snap task taskResult) acct := by
  unfold finishVideoUpdate
  split
  · refine meets_ask (fun _ => unfinished) fun won _ => ?_
    split
    · apply meets_bill
      intro ended mine
      change (acct || (decide (task.id = target) && task.status.terminal)) = true
      rw [decide_eq_true mine, ended, Bool.true_and, Bool.or_true]
    · trivial
  next unmoved =>
  -- a task that is final here was final in the snapshot already
  have going : task.status.terminal ≠ true := by
    intro ended
    have same : snap.status = task.status := by
      by_contra differs
      exact unmoved ⟨ended, differs⟩
    rw [same, ended] at unfinished
    cases unfinished
  split
  · exact meets_ask (fun _ => unfinished) fun _ _ => meets_bill fun ended => absurd ended going
  · exact meets_bill fun ended => absurd ended going

theorem meets_video (unfinished : task.status.terminal = false) (decoder : Decoder) (ch : PollChannel)
    (now : Int) (resp : VideoResponse) :
    Script.Meets (discipline target) anyway (updateVideoSingleTask decoder ch now resp task) acct := by
  unfold updateVideoSingleTask
  split
  · trivial
  · split
    · split
      · exact meets_ask (fun _ => rfl) fun _ _ => trivial
      · trivial
    · split
      · trivial
      · split
        · trivial
        next reported _ =>
          split
          · trivial
          · exact meets_finish unfinished reported

theorem meets_sweepTask (unfinished : task.status.terminal = false) (timeoutMinutes now : Int) :
    Script.Meets (discipline target) anyway (sweepTask timeoutMinutes now task) acct := by
  refine meets_ask (fun _ => unfinished) fun won _ => ?_
  split
  · split
    · refine ⟨fun mine => ?_, fun _ _ => trivial⟩
      change (acct || (decide (task.id = target) && TaskStatus.terminal .failure)) = true
      change task.id = target at mine
      rw [decide_eq_true mine, Bool.true_and]
      exact Bool.or_true acct
    · trivial
  · trivial

abbrev Remaining (tasks : List Task) (_ : Account) (_ : Unit) : Prop := ∀ task ∈ tasks, task.status.terminal = false

theorem meets_sweep (timeoutMinutes now : Int) :
    Script.Meets (discipline target) anyway (sweepTimedOutTasks timeoutMinutes now) acct := by
  unfold sweepTimedOutTasks
  split
  · trivial
  refine meets_ask trivial fun tasks unfinished => ?_
  have step : ∀ task rest acct state, Remaining (task :: rest) acct state →
      Script.Meets (discipline target) (orFails (Remaining rest) fun _ => True) (sweepTask timeoutMinutes now task)
        acct := by
    intro task rest acct _ remaining
    refine meets_mono (fun _ outcome _ => ?_) (meets_sweepTask (remaining task mem_cons_self) timeoutMinutes now)
    cases outcome with
    | ok _ => exact fun other mem => remaining other (mem_cons_of_mem _ mem)
    | error _ => trivial
  exact meets_mono (fun _ _ _ => trivial) (meets_loop step tasks unfinished)

theorem meets_invocation (invocation : Invocation) : Script.Meets (discipline target) anyway invocation.script acct := by
  cases invocation with
  | video decoder ch now limit taskId resp =>
    refine meets_ask trivial fun tasks unfinished => ?_
    cases found : (tasks : List Task).find? (fun task => decide (task.id = taskId)) with
    | none => trivial
    | some task =>
      have listed : task ∈ (tasks : List Task) := mem_of_find?_eq_some found
      exact meets_bind (meets_video (unfinished task listed) decoder ch now resp) fun _ res _ => by
        cases res <;> trivial
  | sweep timeoutMinutes now => exact meets_sweep timeoutMinutes now

end Invocations

theorem start_coherent (tasks : Table Task.id) (world : World) (faults : List (Option String))
    (invocations : List Invocation) (target : Int) :
    Coherent (fun _ => discipline target) (fun _ => anyway) (Held target none) invocations.length
      (start tasks world faults invocations) := by
  have nobody : Held target none (start tasks world faults invocations).shared (fun _ => false) :=
    ⟨fun _ => ⟨fun _ => rfl, rfl⟩, nofun, nofun, Nat.zero_le 1, nofun, nofun, nofun⟩
  refine ⟨length_map _, _, nobody, fun pid script found => ?_⟩
  rw [start, getElem?_map] at found
  obtain ⟨invocation, _, rfl⟩ := Option.map_eq_some_iff.mp found
  exact meets_invocation invocation

theorem run_coherent {pricing : Pricing} {target : Int} {final : Option TaskStatus} {count : Nat}
    {machine after : Machine Answer Shared (Except String Unit)} {schedule : List Nat}
    (coherent : Coherent (fun _ => discipline target) (fun _ => anyway) (Held target final) count machine)
    (run : Runs.exec (step (exec pricing)) machine schedule = some after) :
    Coherent (fun _ => discipline target) (fun _ => anyway) (Held target final) count after :=
  coherent_run (held_preserved pricing target final count) coherent
    (Runs.guarded_always (fun _ _ _ _ _ => trivial) schedule machine) run

/-- At most one invocation bills the task, by a guarded update of its own that was effective, and the task stays in
its final status. -/
theorem video_task_billed_once (pricing : Pricing) (tasks : Table Task.id) (world : World) (faults : List (Option String))
    (invocations : List Invocation) (target : Int) (before later : List Nat)
    (machine after : Machine Answer Shared (Except String Unit))
    (reached : Runs.exec (step (exec pricing)) (start tasks world faults invocations) before = some machine)
    (continued : Runs.exec (step (exec pricing)) machine later = some after) :
    (billed target machine.shared.history).length ≤ 1 ∧
      (∀ event ∈ billed target machine.shared.history, ⟨event.pid, .won, target⟩ ∈ machine.shared.history) ∧
      ∀ row, machine.shared.tasks.lookup target = some row → row.status.terminal = true →
        ∃ row', after.shared.tasks.lookup target = some row' ∧ row'.status = row.status := by
  obtain ⟨count, accts, held, meets⟩ := run_coherent (start_coherent tasks world faults invocations target) reached
  refine ⟨held.once, held.biller, fun row found ended => ?_⟩
  have settled : Held target (some row.status) machine.shared accts :=
    { held with final := by rintro status ⟨⟩; exact ⟨ended, row, found, rfl⟩ }
  obtain ⟨_, _, held', _⟩ := run_coherent ⟨count, accts, settled, meets⟩ continued
  exact (held'.final row.status rfl).2

def race : List Invocation :=
  [.video (reporting (failTaskInfo "rejected")) ⟨1, false⟩ (legacyTaskCutoff + 7200) 1000 7 (.received "" ""),
    .sweep 60 (legacyTaskCutoff + 7200)]

/-- Both find the task unfinished, and the sweep moves it first. -/
theorem race_billed_once :
    ∃ machine after, Runs.exec (step (exec perCall)) (start (Table.empty.save slowTask) (healthy plainEnv emptyDb) [] race)
        [0, 1, 1, 0, 1] = some machine ∧ Runs.exec (step (exec perCall)) machine [] = some after ∧
      machine.processes = [.done (.ok ()), .done (.ok ())] ∧ machine.shared.history = [⟨1, .refunded 100, 7⟩, ⟨1, .won, 7⟩] ∧
      (billed 7 machine.shared.history).length ≤ 1 :=
  ⟨_, _, rfl, rfl, rfl, rfl, (video_task_billed_once perCall (Table.empty.save slowTask) (healthy plainEnv emptyDb) [] race
    7 [0, 1, 1, 0, 1] [] _ _ rfl rfl).1⟩

end Tokengine.Tasks.OneSettlement
