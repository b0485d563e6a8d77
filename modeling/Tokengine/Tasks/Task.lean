import Tokengine.Service.Billing

/-! Asynchronous tasks: the row of a task, the request that submits it and the queries of the poller. -/

namespace Tokengine.Tasks
open Service Funding Session List

def statusTexts : List String := ["NOT_START", "SUBMITTED", "QUEUED", "IN_PROGRESS", "FAILURE", "SUCCESS", "UNKNOWN"]

/-- `TaskStatus` is an open string type: an upstream may report any other text. -/
inductive TaskStatus where
  | notStart
  | submitted
  | queued
  | inProgress
  | failure
  | success
  | unknown
  | other (text : String) (unnamed : text ∉ statusTexts)
  deriving DecidableEq

def TaskStatus.text : TaskStatus → String
  | .notStart => "NOT_START"
  | .submitted => "SUBMITTED"
  | .queued => "QUEUED"
  | .inProgress => "IN_PROGRESS"
  | .failure => "FAILURE"
  | .success => "SUCCESS"
  | .unknown => "UNKNOWN"
  | .other text _ => text

def TaskStatus.ofText (text : String) : TaskStatus :=
  if unnamed : text ∉ statusTexts then .other text unnamed
  else if text = "NOT_START" then .notStart
  else if text = "SUBMITTED" then .submitted
  else if text = "QUEUED" then .queued
  else if text = "IN_PROGRESS" then .inProgress
  else if text = "FAILURE" then .failure
  else if text = "SUCCESS" then .success
  else .unknown

def TaskStatus.terminal : TaskStatus → Bool
  | .failure => true
  | .success => true
  | _ => false

inductive TaskPlatform where
  | midjourney
  | suno
  /-- The channel type of a video platform. -/
  | video (name : String) (unnamed : name ∉ ["mj", "suno"])
  deriving DecidableEq

theorem channelType_unnamed : "45" ∉ ["mj", "suno"] := by decide

/-- The part of `TaskPrivateData` that billing and polling read. -/
structure TaskPrivateData where
  (upstreamTaskId resultURL : String)
  billingSource : Option BillingSource
  (subscriptionId tokenId : Int)
  /-- `BillingContext.PerCallBilling`. -/
  perCallBilling : Bool
  deriving DecidableEq

structure Task where
  id : Int
  taskId : String
  platform : TaskPlatform
  (userId channelId quota : Int)
  status : TaskStatus
  failReason : String
  (submitTime startTime finishTime : Int)
  progress : String
  privateData : TaskPrivateData
  data : String
  deriving DecidableEq

def Task.getUpstreamTaskID (task : Task) : String :=
  if task.privateData.upstreamTaskId ≠ "" then task.privateData.upstreamTaskId else task.taskId

structure TaskSubmitResult where
  (upstreamTaskId taskData : String)
  platform : TaskPlatform
  quota : Int
  deriving DecidableEq

/-- `InitTask`, before the insert gives the row its id. -/
def initTask (platform : TaskPlatform) (info : RelayInfo) (publicTaskId : String) (now : Int) : Task where
  id := 0
  taskId := publicTaskId
  platform := platform
  userId := info.userId
  channelId := info.channelId
  quota := 0
  status := .notStart
  failReason := ""
  submitTime := now
  startTime := 0
  finishTime := 0
  progress := "0%"
  privateData := ⟨"", "", none, 0, 0, false⟩
  data := ""

/-- The row that `RelayTask` inserts for an accepted submission. -/
def submittedTask (info : RelayInfo) (res : TaskSubmitResult) (perCallBilling : Bool) (publicTaskId : String)
    (now : Int) : Task :=
  { initTask res.platform info publicTaskId now with
    privateData := ⟨res.upstreamTaskId, "", info.billingSource, info.subscriptionId, info.tokenId, perCallBilling⟩
    quota := res.quota
    data := res.taskData }

/-- The condition of `GetAllUnFinishSyncTasks`. -/
def Task.unfinished (task : Task) : Bool :=
  decide (task.progress ≠ "100%") && !task.status.terminal

/-- The condition of `GetTimedOutUnfinishedTasks`. -/
def Task.timedOut (cutoff : Int) (task : Task) : Bool := task.unfinished && decide (task.submitTime < cutoff)

def getAllUnFinishSyncTasks (limit : Nat) (tasks : Table Task.id) : List Task :=
  ((tasks.rows.filter Task.unfinished).insertionSort fun first second => first.id ≤ second.id).take limit

def getTimedOutUnfinishedTasks (cutoff : Int) (limit : Nat) (tasks : Table Task.id) : List Task :=
  ((tasks.rows.filter (Task.timedOut cutoff)).insertionSort
    fun first second => first.submitTime ≤ second.submitTime).take limit

variable {limit : Nat} {task : Task} {cutoff : Int}

section Queries

variable {keep : Task → Bool} {order : Task → Task → Prop} [DecidableRel order] {tasks : Table Task.id}

theorem mem_found (mem : task ∈ ((tasks.rows.filter keep).insertionSort order).take limit) : keep task = true := by
  have listed := mem_of_mem_take mem
  rw [mem_insertionSort, mem_filter] at listed
  exact listed.2

theorem found_mem (enough : tasks.rows.length ≤ limit) (stored : task ∈ tasks.rows) (kept : keep task = true) :
    task ∈ ((tasks.rows.filter keep).insertionSort order).take limit := by
  have few := length_filter_le keep tasks.rows
  rw [take_of_length_le (by rw [length_insertionSort]; omega), mem_insertionSort]
  exact mem_filter.mpr ⟨stored, kept⟩

end Queries

theorem unfinished_status (unfinished : task.unfinished = true) : task.status.terminal = false := by
  simp only [Task.unfinished, Bool.and_eq_true, Bool.not_eq_true'] at unfinished
  exact unfinished.2

theorem unfinished_progress (unfinished : task.unfinished = true) : task.progress ≠ "100%" := by
  simp only [Task.unfinished, Bool.and_eq_true, decide_eq_true_eq] at unfinished
  exact unfinished.1

theorem timedOut_unfinished (timedOut : task.timedOut cutoff = true) : task.unfinished = true := by
  simp only [Task.timedOut, Bool.and_eq_true] at timedOut
  exact timedOut.1

/-- `UpdateWithStatus`: every column is written if the row still has the status that was read. -/
def updateWithStatus (fromStatus : TaskStatus) (task : Task) (tasks : Table Task.id) : Bool × Table Task.id :=
  match tasks.lookup task.id with
  | some row => if row.status = fromStatus then (true, tasks.save task) else (false, tasks)
  | none => (false, tasks)

def Task.bulkFail (failReason : Option String) (task : Task) : Task :=
  { task with status := .failure, progress := "100%", failReason := failReason.getD task.failReason }

/-- `TaskBulkUpdateByID`: no condition on the status. -/
def taskBulkUpdateByID (ids : List Int) (failReason : Option String) (tasks : Table Task.id) : Table Task.id :=
  ids.foldl (fun tasks id => tasks.update id (Task.bulkFail failReason)) tasks

end Tokengine.Tasks
