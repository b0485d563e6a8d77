import Tokengine.Lib.Interleaving
import Tokengine.Tasks.Billing

/-! The poller as scripts of statements on the tasks: the sweep of timed-out tasks, the batch update
of Suno tasks and the single update of video tasks. What JSON decoding, the adaptor of a platform and
the upstream answer is an input. -/

namespace Tokengine.Tasks.Polling
open Interleaving Model.Database Text List

inductive Statement where
  | findTimedOut (cutoff : Int) (limit : Nat)
  | findUnfinished (limit : Nat)
  | updateWithStatus (fromStatus : TaskStatus) (task : Task)
  /-- `DB.Save`. -/
  | update (task : Task)
  | bulkUpdate (ids : List Int) (failReason : Option String)
  | refund (task : Task)
  | settle (task : Task) (taskResult : TaskInfo)

abbrev Answer : Statement → Type
  | .findTimedOut _ _ => List Task
  | .findUnfinished _ => List Task
  | .updateWithStatus _ _ => Except String Bool
  | .update _ => Except String Unit
  | .bulkUpdate _ _ => Except String Unit
  | .refund _ => Unit
  | .settle _ _ => Task

inductive EventKind where
  /-- An update with a status guard that reported success. -/
  | won
  /-- A call of `RefundTaskQuota` for a task of this quota. -/
  | refunded (quota : Int)
  | settled
  deriving DecidableEq

structure Event where
  pid : Nat
  kind : EventKind
  taskId : Int

/-- The tasks, the balances, what the driver will answer to statements on the tasks, and what has happened,
latest first. -/
structure Shared where
  tasks : Table Task.id
  world : World
  faults : List (Option String)
  history : List Event

def Shared.record (shared : Shared) (pid : Nat) (kind : EventKind) (taskId : Int) : Shared :=
  { shared with history := ⟨pid, kind, taskId⟩ :: shared.history }

/-- One answer of the driver is used up. -/
def Shared.answered (shared : Shared) : Shared := { shared with faults := shared.faults.tail }

def Shared.attempt {α : Type} (shared : Shared) (stmt : Shared → α × Shared) : Except String α × Shared :=
  match shared.faults with
  | some fault :: _ => (.error fault, shared.answered)
  | _ =>
    let outcome := stmt shared.answered
    (.ok outcome.1, outcome.2)

def Shared.query (shared : Shared) (find : Table Task.id → List Task) : List Task × Shared :=
  let outcome := shared.attempt fun shared => (find shared.tasks, shared)
  (outcome.1.toOption.getD [], outcome.2)

def Shared.compareAndSet (pid : Nat) (fromStatus : TaskStatus) (task : Task) (shared : Shared) : Bool × Shared :=
  let outcome := updateWithStatus fromStatus task shared.tasks
  (outcome.1, if outcome.1 then { shared with tasks := outcome.2 }.record pid .won task.id else shared)

def exec (pricing : Pricing) : Semantics Answer Shared := fun pid shared stmt =>
  match stmt with
  | .findTimedOut cutoff limit => some (shared.query (getTimedOutUnfinishedTasks cutoff limit))
  | .findUnfinished limit => some (shared.query (getAllUnFinishSyncTasks limit))
  | .updateWithStatus fromStatus task => some (shared.attempt (Shared.compareAndSet pid fromStatus task))
  | .update task => some (shared.attempt fun shared => ((), { shared with tasks := shared.tasks.save task }))
  | .bulkUpdate ids failReason => some (shared.attempt fun shared =>
      ((), { shared with tasks := taskBulkUpdateByID ids failReason shared.tasks }))
  | .refund task =>
    some ((), { shared with world := (refundTaskQuota task shared.world).2 }.record pid (.refunded task.quota) task.id)
  | .settle task taskResult =>
    let outcome := settleTaskBillingOnComplete pricing task taskResult shared.world
    some (outcome.1.toOption.getD task, { shared with world := outcome.2 }.record pid .settled task.id)

/-- The outcomes of each statement; one that may be refused uses up one answer of the driver. -/
inductive Effect (pid : Nat) (shared : Shared) : (stmt : Statement) → Answer stmt → Shared → Prop
  | timedOut (cutoff : Int) (limit : Nat) (tasks : List Task)
      (found : tasks = getTimedOutUnfinishedTasks cutoff limit shared.tasks ∨ tasks = []) :
      Effect pid shared (.findTimedOut cutoff limit) tasks shared.answered
  | unfinished (limit : Nat) (tasks : List Task)
      (found : tasks = getAllUnFinishSyncTasks limit shared.tasks ∨ tasks = []) :
      Effect pid shared (.findUnfinished limit) tasks shared.answered
  | refused (fromStatus : TaskStatus) (task : Task) (e : String) :
      Effect pid shared (.updateWithStatus fromStatus task) (.error e) shared.answered
  | lost (fromStatus : TaskStatus) (task : Task) :
      Effect pid shared (.updateWithStatus fromStatus task) (.ok false) shared.answered
  | won (task row : Task) (found : shared.tasks.lookup task.id = some row) :
      Effect pid shared (.updateWithStatus row.status task) (.ok true) { shared.answered with
        tasks := shared.tasks.save task
        history := ⟨pid, .won, task.id⟩ :: shared.history }
  | notUpdated (task : Task) (e : String) :
      Effect pid shared (.update task) (.error e) shared.answered
  | updated (task : Task) :
      Effect pid shared (.update task) (.ok ()) { shared.answered with tasks := shared.tasks.save task }
  | notBulkUpdated (ids : List Int) (failReason : Option String) (e : String) :
      Effect pid shared (.bulkUpdate ids failReason) (.error e) shared.answered
  | bulkUpdated (ids : List Int) (failReason : Option String) :
      Effect pid shared (.bulkUpdate ids failReason) (.ok ())
        { shared.answered with tasks := taskBulkUpdateByID ids failReason shared.tasks }
  | refunded (task : Task) (world : World) :
      Effect pid shared (.refund task) () { shared with
        world
        history := ⟨pid, .refunded task.quota, task.id⟩ :: shared.history }
  | settled (task : Task) (taskResult : TaskInfo) (answer : Task) (world : World) :
      Effect pid shared (.settle task taskResult) answer { shared with
        world
        history := ⟨pid, .settled, task.id⟩ :: shared.history }

section Effects

variable {shared : Shared}

/-- A statement is refused, or it runs. -/
theorem attempt_ends {α : Type} {stmt : Shared → α × Shared} {post : Except String α → Shared → Prop}
    (refused : ∀ e, post (.error e) shared.answered) (ran : post (.ok (stmt shared.answered).1) (stmt shared.answered).2) :
    post (shared.attempt stmt).1 (shared.attempt stmt).2 := by
  unfold Shared.attempt
  split
  · exact refused _
  · exact ran

theorem query_ends {find : Table Task.id → List Task} {post : List Task → Shared → Prop}
    (found : ∀ tasks, tasks = find shared.tasks ∨ tasks = [] →
      post tasks shared.answered) : post (shared.query find).1 (shared.query find).2 :=
  @attempt_ends shared _ _ (fun tasks => post (tasks.toOption.getD [])) (fun _ => found _ (Or.inr rfl)) (found _ (Or.inl rfl))

variable {pricing : Pricing} {pid : Nat} {stmt : Statement}

theorem exec_outcome {outcome : Answer stmt × Shared} (performed : exec pricing pid shared stmt = some outcome) :
    Effect pid shared stmt outcome.1 outcome.2 := by
  cases stmt with
  | findTimedOut cutoff limit =>
    cases performed
    exact query_ends (.timedOut cutoff limit)
  | findUnfinished limit =>
    cases performed
    exact query_ends (.unfinished limit)
  | updateWithStatus fromStatus task =>
    cases performed
    refine attempt_ends (.refused fromStatus task) ?_
    have tables : shared.answered.tasks = shared.tasks := rfl
    unfold Shared.compareAndSet updateWithStatus
    rw [tables]
    cases found : shared.tasks.lookup task.id with
    | none => exact .lost fromStatus task
    | some row =>
      by_cases same : row.status = fromStatus
      · subst same
        simp only [↓reduceIte]
        exact .won task row found
      · simp only [same, ↓reduceIte]
        exact .lost fromStatus task
  | update task =>
    cases performed
    exact attempt_ends (.notUpdated task) (.updated task)
  | bulkUpdate ids failReason =>
    cases performed
    exact attempt_ends (.notBulkUpdated ids failReason) (.bulkUpdated ids failReason)
  | refund task =>
    cases performed
    exact .refunded task _
  | settle task taskResult =>
    cases performed
    exact .settled task taskResult _ _

theorem exec_effect {after : Shared} {answer : Answer stmt}
    (performed : exec pricing pid shared stmt = some (answer, after)) : Effect pid shared stmt answer after :=
  exec_outcome performed

end Effects

theorem read_unfinished {shared : Shared} {tasks : List Task} {keep : Task → Bool} {order : Task → Task → Prop}
    [DecidableRel order] {limit : Nat} (unfinished : ∀ {task}, keep task = true → task.unfinished = true)
    (found : tasks = ((shared.tasks.rows.filter keep).insertionSort order).take limit ∨ tasks = []) :
    ∀ task ∈ tasks, task.unfinished = true := by
  rcases found with rfl | rfl
  · exact fun _ mem => unfinished (mem_found mem)
  · exact forall_mem_nil _

abbrev Poller (α : Type) := ExceptT String (Script Answer) α

/-! The sweep. -/

def legacyTaskCutoff : Int := 1740182400

def isLegacy (task : Task) : Bool := decide (0 < task.submitTime) && decide (task.submitTime < legacyTaskCutoff)

def timeoutReason (timeoutMinutes : Int) : String := "任务超时（" ++ toString timeoutMinutes ++ "分钟）"

def legacyReason : String := "任务超时（旧系统遗留任务，不进行退款，请联系管理员）"

def expire (timeoutMinutes now : Int) (task : Task) : Task := { task with
  status := .failure
  progress := "100%"
  finishTime := now
  failReason := if isLegacy task then legacyReason else timeoutReason timeoutMinutes }

def sweepTask (timeoutMinutes now : Int) (task : Task) : Poller Unit := do
  let won ← ask (Statement.updateWithStatus task.status (expire timeoutMinutes now task))
  match (won : Except String Bool) with
  | .ok true =>
    if isLegacy task = false ∧ task.quota ≠ 0 then ask (Statement.refund (expire timeoutMinutes now task)) else pure ()
  | _ => pure ()

def sweepTimedOutTasks (timeoutMinutes now : Int) : Poller Unit :=
  if timeoutMinutes ≤ 0 then pure ()
  else do
    let tasks ← ask (Statement.findTimedOut (now - timeoutMinutes * 60) 100)
    loop (fun _ task => sweepTask timeoutMinutes now task) tasks ()

/-! Video tasks. -/

/-- The part of a new-API response that is read; its result URL is never decoded, so `GetResultURL` is the reason. -/
structure NewApiTask where
  (status progress failReason data : String)

inductive ErrorBody where
  | notJson
  | unrecognized
  | openAI (code : String)

structure Decoder where
  newApiTask : String → Option NewApiTask
  parseTaskResult : String → Except String TaskInfo
  errorBody : String → ErrorBody
  (redactVideoResponseBody buildProxyURL : String → String)

structure PollChannel where
  id : Int
  /-- `ChannelTypeJingWei`, whose bodies are always parsed by the adaptor. -/
  isJingWei : Bool

inductive VideoResponse where
  | failed
  | received (contentType body : String)

def isHtml (body : String) : Bool := hasPrefix body "<"

def htmlReason (channelId : Int) (contentType : String) : String :=
  "上游 API 返回 HTML 响应而非 JSON（渠道 #" ++ toString channelId ++
    " 配置可能有问题，请检查 API Key 或 API 地址）。Content-Type: " ++ contentType

def failByHtml (channelId : Int) (contentType : String) (now : Int) (task : Task) : Task := { task with
  failReason := htmlReason channelId contentType
  status := .failure
  progress := "100%"
  finishTime := now }

def parseVideoBody (decoder : Decoder) (ch : PollChannel) (task : Task) (body : String) :
    Except String TaskInfo × Task :=
  let first : Except String TaskInfo × Task :=
    match decoder.newApiTask body with
    | some t => (.ok ⟨t.status, t.failReason, t.failReason, t.progress, 0⟩, { task with data := t.data })
    | none => (decoder.parseTaskResult body, task)
  match first with
  | (.error e, task) => (.error e, task)
  | (.ok taskResult, task) =>
    let second := if ch.isJingWei then decoder.parseTaskResult body else .ok taskResult
    match second with
    | .error e => (.error e, task)
    | .ok taskResult => (.ok taskResult, { task with data := decoder.redactVideoResponseBody body })

def reportedResult (decoder : Decoder) (body : String) (taskResult : TaskInfo) : Option TaskInfo :=
  if taskResult.status ≠ "" then some taskResult
  else
    match decoder.errorBody body with
    | .openAI code => if code = "429" then none else some (failTaskInfo "upstream returned error")
    | .unrecognized => some (failTaskInfo "upstream returned unrecognized message")
    | .notJson => some (failTaskInfo "upstream returned invalid JSON")

def resultURL (decoder : Decoder) (task : Task) (taskResult : TaskInfo) : String :=
  if hasPrefix taskResult.url "data:" then decoder.buildProxyURL task.taskId
  else if taskResult.url ≠ "" then taskResult.url
  else decoder.buildProxyURL task.taskId

def withProgress (progress : String) (task : Task) : Task :=
  if progress ≠ "" then { task with progress } else task

def applyVideoResult (decoder : Decoder) (now : Int) (taskResult : TaskInfo) (task : Task) : Option Task :=
  let task := { task with status := .ofText taskResult.status }
  match task.status with
  | .submitted => some (withProgress taskResult.progress { task with progress := "10%" })
  | .queued => some (withProgress taskResult.progress { task with progress := "20%" })
  | .inProgress => some (withProgress taskResult.progress { task with
      progress := "30%"
      startTime := if task.startTime = 0 then now else task.startTime })
  | .success => some (withProgress taskResult.progress { task with
      progress := "100%"
      finishTime := if task.finishTime = 0 then now else task.finishTime
      privateData := { task.privateData with resultURL := resultURL decoder task taskResult } })
  | .failure => some { task with
      progress := "100%"
      finishTime := if task.finishTime = 0 then now else task.finishTime
      failReason := taskResult.reason }
  | _ => none

structure TaskSnapshot where
  status : TaskStatus
  progress : String
  (startTime finishTime : Int)
  (failReason resultURL data : String)
  deriving DecidableEq

def Task.snapshot (task : Task) : TaskSnapshot :=
  ⟨task.status, task.progress, task.startTime, task.finishTime, task.failReason, task.privateData.resultURL, task.data⟩

def billVideoTask (task : Task) (taskResult : TaskInfo) : Poller Task :=
  match task.status with
  | .success => ask (Statement.settle task taskResult)
  | .failure =>
    if task.quota ≠ 0 then do
      ask (Statement.refund task)
      pure task
    else pure task
  | _ => pure task

def finishVideoUpdate (snap task : Task) (taskResult : TaskInfo) : Poller Task :=
  if task.status.terminal ∧ snap.status ≠ task.status then do
    let won ← ask (Statement.updateWithStatus snap.status task)
    match (won : Except String Bool) with
    | .ok true => billVideoTask task taskResult
    | _ => pure task
  else if Task.snapshot snap ≠ Task.snapshot task then do
    let _ ← ask (Statement.updateWithStatus snap.status task)
    billVideoTask task taskResult
  else billVideoTask task taskResult

def updateVideoSingleTask (decoder : Decoder) (ch : PollChannel) (now : Int) (resp : VideoResponse)
    (task : Task) : Poller Task :=
  match resp with
  | .failed => pure task
  | .received contentType body =>
    if isHtml body then
      if task.status = .notStart then do
        let _ ← ask (Statement.updateWithStatus .notStart (failByHtml ch.id contentType now task))
        pure (failByHtml ch.id contentType now task)
      else pure task
    else
      match parseVideoBody decoder ch task body with
      | (.error _, parsed) => pure parsed
      | (.ok taskResult, parsed) =>
        match reportedResult decoder body taskResult with
        | none => pure parsed
        | some taskResult =>
          match applyVideoResult decoder now taskResult parsed with
          | none => pure { parsed with status := .ofText taskResult.status }
          | some updated => finishVideoUpdate task updated taskResult

/-! A task and an upstream for concrete runs. -/

def reporting (taskResult : TaskInfo) : Decoder where
  newApiTask _ := none
  parseTaskResult _ := .ok taskResult
  errorBody _ := .notJson
  redactVideoResponseBody body := body
  buildProxyURL taskId := taskId

def slowTask : Task where
  id := 7
  taskId := "task"
  platform := .video "45" channelType_unnamed
  userId := 1
  channelId := 1
  quota := 100
  status := .inProgress
  failReason := ""
  submitTime := legacyTaskCutoff
  startTime := 0
  finishTime := 0
  progress := "30%"
  privateData := ⟨"upstream", "", some .wallet, 0, 0, true⟩
  data := ""

def perCall : Pricing := ⟨fun _ _ => 0, fun _ _ => none⟩

end Tokengine.Tasks.Polling
