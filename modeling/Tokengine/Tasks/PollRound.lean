import Mathlib.Data.List.Dedup
import Tokengine.Tasks.Polling

/-! One round of the poller: the unfinished tasks are grouped by platform and by channel, Suno tasks
are updated from one batch response for each channel, video tasks one by one. A run mixes rounds,
sweeps and new submissions. -/

namespace Tokengine.Tasks.PollRound
open Interleaving Service.Session Polling List Text Function

structure MapOrder (α : Type) where
  reorder : List α → List α
  perm : ∀ keys, (reorder keys).Perm keys

abbrev TaskMap := String → Option Task

def taskMap (tasks : List Task) : TaskMap := fun upstreamId =>
  tasks.reverse.find? fun task => decide (task.getUpstreamTaskID = upstreamId)

structure SunoDataResponse where
  (taskId status failReason : String)
  (submitTime startTime finishTime : Int)
  data : String
  deriving DecidableEq

structure Round where
  now : Int
  /-- `constant.TaskQueryLimit`. -/
  limit : Nat
  platformOrder : MapOrder TaskPlatform
  channelOrder : MapOrder Int
  /-- `CacheGetChannel`. -/
  channel : Int → Option PollChannel
  /-- The adaptor of a platform, if there is one. -/
  adaptor : TaskPlatform → Option Decoder
  /-- The items of a batch response; a failed request, another status than 200, a body that does not decode and
  a response without success have none. -/
  sunoResponse : Int → Option (List SunoDataResponse)
  /-- The response for a channel and an upstream id. -/
  videoResponse : Int → String → VideoResponse
  /-- `common.Marshal`. -/
  marshal : String → String

/-! Suno tasks. -/

def mapSunoStatusToTaskStatus (sunoStatus : String) : Option TaskStatus :=
  if toLower sunoStatus = "submitted" then some .submitted
  else if toLower sunoStatus = "queueing" then some .queued
  else if toLower sunoStatus = "processing" then some .inProgress
  else if toLower sunoStatus = "success" then some .success
  else if toLower sunoStatus = "failed" then some .failure
  else none

/-- `common.Marshal` and the sort of its bytes. -/
def sortedBytes (marshal : String → String) (data : String) : List UInt8 :=
  (marshal data).toUTF8.toList.insertionSort (· ≤ ·)

def taskNeedsUpdate (marshal : String → String) (oldTask : Task) (newTask : SunoDataResponse) : Bool :=
  decide (oldTask.submitTime ≠ newTask.submitTime) || decide (oldTask.startTime ≠ newTask.startTime) ||
    decide (oldTask.finishTime ≠ newTask.finishTime) || decide (oldTask.status.text ≠ newTask.status) ||
    decide (oldTask.failReason ≠ newTask.failReason) || (oldTask.status.terminal && decide (oldTask.progress ≠ "100%")) ||
    decide (sortedBytes marshal oldTask.data ≠ sortedBytes marshal newTask.data)

def sunoStatus (item : SunoDataResponse) (old : TaskStatus) : TaskStatus :=
  match mapSunoStatusToTaskStatus item.status with
  | some mapped => mapped
  | none => if item.status ≠ "" then .ofText item.status else old

def sunoFailed (item : SunoDataResponse) (status : TaskStatus) : Bool :=
  decide (item.failReason ≠ "") || decide (status = .failure)

def reportSuno (item : SunoDataResponse) (task : Task) : Task := { task with
  status := sunoStatus item task.status
  failReason := if item.failReason ≠ "" then item.failReason else task.failReason
  submitTime := if item.submitTime ≠ 0 then item.submitTime else task.submitTime
  startTime := if item.startTime ≠ 0 then item.startTime else task.startTime
  finishTime := if item.finishTime ≠ 0 then item.finishTime else task.finishTime
  progress := if sunoFailed item (sunoStatus item task.status) then "100%" else task.progress }

def finishSuno (item : SunoDataResponse) (task : Task) : Task := { reportSuno item task with
  progress := if mapSunoStatusToTaskStatus item.status = some .success then "100%" else (reportSuno item task).progress
  data := item.data }

section Suno

variable (item : SunoDataResponse) (task : Task)

@[simp]
theorem finishSuno_status : (finishSuno item task).status = sunoStatus item task.status := by
  simp only [finishSuno, reportSuno]

end Suno

def saveSuno (item : SunoDataResponse) (task : Task) (taskM : TaskMap) : Poller TaskMap := do
  let _ ← ask (Statement.update (finishSuno item task))
  pure (update taskM item.taskId (some (finishSuno item task)))

/-- One item of a batch response; an id that is not in the map is a nil pointer. The refund comes before the update
and does not depend on it. -/
def updateSunoTask (round : Round) (taskM : TaskMap) (item : SunoDataResponse) : Poller TaskMap :=
  match taskM item.taskId with
  | none => throw "invalid memory address or nil pointer dereference"
  | some task =>
    if taskNeedsUpdate round.marshal task item then
      if sunoFailed item (sunoStatus item task.status) then do
        ask (Statement.refund (reportSuno item task))
        saveSuno item task taskM
      else saveSuno item task taskM
    else pure taskM

def failChannel (reason : String) (taskIds : List String) (taskM : TaskMap) : Poller TaskMap := do
  let _ ← ask (Statement.bulkUpdate (taskIds.filterMap fun upstreamId => (taskM upstreamId).map Task.id) (some reason))
  pure taskM

def sunoChannelReason (channelId : Int) : String := "获取渠道信息失败，请联系管理员，渠道ID：" ++ toString channelId

def updateSunoTasks (round : Round) (channelId : Int) (taskIds : List String) (taskM : TaskMap) : Poller TaskMap :=
  match round.channel channelId with
  | none => failChannel (sunoChannelReason channelId) taskIds taskM
  | some _ =>
    match round.adaptor .suno, round.sunoResponse channelId with
    | some _, some items => loop (updateSunoTask round) items taskM
    | _, _ => pure taskM

/-! Video tasks. -/

def videoChannelReason (channelId : Int) : String := "Failed to get channel info, channel ID: " ++ toString channelId

def updateVideoTask (round : Round) (decoder : Decoder) (ch : PollChannel) (channelId : Int) (taskM : TaskMap)
    (upstreamId : String) : Poller TaskMap :=
  match taskM upstreamId with
  | none => pure taskM
  | some task => do
    let updated ← updateVideoSingleTask decoder ch round.now (round.videoResponse channelId upstreamId) task
    pure (update taskM upstreamId (some updated))

def updateVideoTasks (round : Round) (platform : TaskPlatform) (channelId : Int) (taskIds : List String)
    (taskM : TaskMap) : Poller TaskMap :=
  match round.channel channelId with
  | none => failChannel (videoChannelReason channelId) taskIds taskM
  | some ch =>
    match round.adaptor platform with
    | some decoder => loop (updateVideoTask round decoder ch channelId) taskIds taskM
    | none => pure taskM

/-! The round. -/

def channelTaskIds (tasks : List Task) (channelId : Int) : List String :=
  (tasks.filter fun task => decide (task.channelId = channelId)).map Task.getUpstreamTaskID

def updateChannel (round : Round) (platform : TaskPlatform) (tasks : List Task) (taskM : TaskMap) (channelId : Int) :
    Poller TaskMap :=
  match platform with
  | .midjourney => pure taskM
  | .suno => updateSunoTasks round channelId (channelTaskIds tasks channelId) taskM
  | .video _ _ => updateVideoTasks round platform channelId (channelTaskIds tasks channelId) taskM

def dispatchPlatformUpdate (round : Round) (platform : TaskPlatform) (tasks : List Task) : Poller Unit := do
  let _ ← loop (updateChannel round platform tasks) (round.channelOrder.reorder (tasks.map Task.channelId).dedup)
    (taskMap tasks)
  pure ()

def nullTask (task : Task) : Bool := decide (task.getUpstreamTaskID = "")

def failNullTasks (ids : List Int) : Poller Unit :=
  if ids = [] then pure ()
  else do
    let _ ← ask (Statement.bulkUpdate ids none)
    pure ()

def nullTasks (tasks : List Task) (platform : TaskPlatform) : List Task :=
  (tasks.filter fun task => decide (task.platform = platform)).filter nullTask

def liveTasks (tasks : List Task) (platform : TaskPlatform) : List Task :=
  (tasks.filter fun task => decide (task.platform = platform)).filter fun task => !nullTask task

def pollPlatform (round : Round) (tasks : List Task) (platform : TaskPlatform) : Poller Unit := do
  failNullTasks ((nullTasks tasks platform).map Task.id)
  dispatchPlatformUpdate round platform (liveTasks tasks platform)

def pollTasks (round : Round) (tasks : List Task) : Poller Unit :=
  loop (fun _ platform => pollPlatform round tasks platform)
    (round.platformOrder.reorder (tasks.map Task.platform).dedup) ()

def poll (round : Round) : Poller Unit := do
  let tasks ← ask (Statement.findUnfinished round.limit)
  pollTasks round tasks

variable {tasks : List Task} {task : Task} {platform : TaskPlatform}

theorem mem_taskMap {key : String} (found : taskMap tasks key = some task) : task ∈ tasks ∧ task.getUpstreamTaskID = key :=
  ⟨mem_reverse.mp (mem_of_find?_eq_some found), by simpa using find?_some found⟩

theorem mem_liveTasks :
    task ∈ liveTasks tasks platform ↔ (task ∈ tasks ∧ task.platform = platform) ∧ task.getUpstreamTaskID ≠ "" := by
  rw [liveTasks, mem_filter, mem_filter, nullTask, decide_eq_true_eq, Bool.not_eq_true', decide_eq_false_iff_not]

theorem mem_channelTaskIds {channelId : Int} {upstreamId : String} : upstreamId ∈ channelTaskIds tasks channelId ↔
      ∃ task ∈ tasks, task.channelId = channelId ∧ task.getUpstreamTaskID = upstreamId := by
  simp only [channelTaskIds, mem_map, mem_filter, decide_eq_true_eq, and_assoc]

/-! Runs. -/

inductive Step where
  | submit (id : Int) (info : RelayInfo) (res : TaskSubmitResult) (perCallBilling : Bool) (publicTaskId : String)
    (now : Int)
  | sweep (timeoutMinutes now : Int)
  | poll (round : Round)

def stepOn (pricing : Pricing) (shared : Shared) : Step → Option Shared
  | .submit id info res perCallBilling publicTaskId now =>
    if shared.tasks.lookup id = none then
      some { shared with
        tasks := shared.tasks.save { submittedTask info res perCallBilling publicTaskId now with id } }
    else none
  | .sweep timeoutMinutes now => (Script.alone (exec pricing) 0 (sweepTimedOutTasks timeoutMinutes now) shared).map (·.2)
  | .poll round => (Script.alone (exec pricing) 0 (poll round) shared).map (·.2)

def videoRound (taskResult : TaskInfo) (ch : Int → Option PollChannel) : Round where
  now := legacyTaskCutoff + 60
  limit := 1000
  platformOrder := ⟨id, fun _ => .refl _⟩
  channelOrder := ⟨id, fun _ => .refl _⟩
  channel := ch
  adaptor _ := some (reporting taskResult)
  sunoResponse _ := none
  videoResponse _ _ := .received "" ""
  marshal := id

end Tokengine.Tasks.PollRound
