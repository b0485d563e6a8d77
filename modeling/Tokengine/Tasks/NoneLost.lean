import Tokengine.Billing.OneSource
import Tokengine.Tasks.PollRound

/-! No task is lost: a task that has not ended is still found by both queries of the poller, as long
as no upstream reports a full progress for a task that goes on. -/

namespace Tokengine.Tasks.NoneLost
open Interleaving Model.Database Billing.OneSource Polling PollRound List Option Table Function Runs

def Reachable (task : Task) : Prop := task.status.terminal = true ∨ task.progress ≠ "100%"

def discipline : Discipline Answer Unit where
  allowed _
    | .updateWithStatus _ task => Reachable task
    | .update task => Reachable task
    | _ => True
  answered _
    | .findTimedOut _ _, tasks => ∀ task ∈ tasks, task.unfinished = true
    | .findUnfinished _, tasks => ∀ task ∈ tasks, task.unfinished = true
    | _, _ => True
  track _ _ _ := ()

def AllReachable (shared : Shared) (_ : Unit) : Prop := ∀ row ∈ shared.tasks.rows, Reachable row

variable {task : Task} {tasks : Table Task.id} {pricing : Pricing}

theorem reachable_save (rows : ∀ row ∈ tasks.rows, Reachable row) (reachable : Reachable task) :
    ∀ row ∈ (tasks.save task).rows, Reachable row := by
  intro row member
  rcases mem_save.mp member with rfl | ⟨old, _⟩
  · exact reachable
  · exact rows row old

theorem reachable_bulk (rows : ∀ row ∈ tasks.rows, Reachable row) (ids : List Int)
    (failReason : Option String) : ∀ row ∈ (taskBulkUpdateByID ids failReason tasks).rows, Reachable row := by
  induction ids generalizing tasks with
  | nil => exact rows
  | cons first rest tail =>
    refine tail ?_
    dsimp only
    cases found : tasks.lookup first with
    | none =>
      rw [update_of_none found]
      exact rows
    | some row =>
      rw [update_of_lookup found]
      exact reachable_save rows (Or.inl rfl)

theorem reachable_preserved {pid : Nat} (shared : Shared) (acct : Unit) (stmt : Statement)
    (answer : Answer stmt) (after : Shared) (reachable : AllReachable shared acct)
    (kept : discipline.allowed acct stmt) (performed : exec pricing pid shared stmt = some (answer, after)) :
    discipline.answered acct stmt answer ∧ AllReachable after (discipline.track acct stmt answer) := by
  cases exec_effect performed with
  | timedOut _ _ _ found => exact ⟨read_unfinished timedOut_unfinished found, reachable⟩
  | unfinished _ _ found => exact ⟨read_unfinished id found, reachable⟩
  | won | updated => exact ⟨trivial, reachable_save reachable kept⟩
  | bulkUpdated ids failReason => exact ⟨trivial, reachable_bulk reachable ids failReason⟩
  | _ => exact ⟨trivial, reachable⟩

abbrev Returns {α : Type} (post : α → Prop) : Unit → Except String α → Prop := orFails (fun _ => post) fun _ => True

abbrev Safe {α : Type} (script : Poller α) : Prop := Script.Meets discipline (Returns fun _ => True) script ()

theorem meets_bill (task : Task) (taskResult : TaskInfo) : Safe (billVideoTask task taskResult) := by
  unfold billVideoTask
  split
  · exact ⟨trivial, fun _ _ => trivial⟩
  · split
    · exact meets_ask trivial fun _ _ => trivial
    · trivial
  · trivial

theorem meets_finish (reachable : Reachable task) (snap : Task) (taskResult : TaskInfo) :
    Safe (finishVideoUpdate snap task taskResult) := by
  unfold finishVideoUpdate
  split
  · refine meets_ask reachable fun won _ => ?_
    split
    · exact meets_bill task taskResult
    · trivial
  · split
    · exact meets_ask reachable fun _ _ => meets_bill task taskResult
    · exact meets_bill task taskResult

def Progresses (decoder : Decoder) (ch : PollChannel) (task : Task) : VideoResponse → Prop
  | .failed => True
  | .received _ body => ∀ taskResult reported, (parseVideoBody decoder ch task body).1 = .ok taskResult →
      reportedResult decoder body taskResult = some reported → reported.progress = "100%" →
      (TaskStatus.ofText reported.status).terminal = true

theorem reachable_withProgress {progress : String} (same : task.progress ≠ "100%")
    (ends : progress = "100%" → task.status.terminal = true) : Reachable (withProgress progress task) := by
  unfold withProgress
  split
  · by_cases full : progress = "100%"
    · exact Or.inl (ends full)
    · exact Or.inr full
  · exact Or.inr same

variable {decoder : Decoder} {resp : VideoResponse} {ch : PollChannel}

theorem reachable_applied {now : Int} {taskResult : TaskInfo} {updated : Task}
    (ends : taskResult.progress = "100%" → (TaskStatus.ofText taskResult.status).terminal = true)
    (applied : applyVideoResult decoder now taskResult task = some updated) : Reachable updated := by
  unfold applyVideoResult at applied
  dsimp only at applied
  split at applied
  case h_1 is | h_2 is | h_3 is =>
    cases applied
    rw [is] at ends
    refine reachable_withProgress ?_ fun full => by cases ends full
    dsimp only
    decide
  case h_4 is =>
    cases applied
    refine Or.inl ?_
    unfold withProgress
    split <;> exact (congrArg TaskStatus.terminal is).trans rfl
  case h_5 is =>
    cases applied
    exact Or.inl ((congrArg TaskStatus.terminal is).trans rfl)
  case h_6 => cases applied

theorem meets_video (progresses : Progresses decoder ch task resp) (now : Int) :
    Safe (updateVideoSingleTask decoder ch now resp task) := by
  unfold updateVideoSingleTask
  split
  · trivial
  · split
    · split
      · exact meets_ask (Or.inl rfl) fun _ _ => trivial
      · trivial
    · split
      · trivial
      next taskResult _ is =>
      split
      · trivial
      next reported reports =>
      split
      · trivial
      next applied =>
        have ends := progresses taskResult reported (by rw [is]) reports
        exact meets_finish (reachable_applied ends applied) task reported

theorem meets_sweep (timeoutMinutes now : Int) : Safe (sweepTimedOutTasks timeoutMinutes now) := by
  unfold sweepTimedOutTasks
  split
  · trivial
  refine meets_ask trivial fun tasks _ => ?_
  refine meets_loop_all (fun task _ _ _ _ => ?_) trivial
  refine meets_ask (Or.inl rfl) fun won _ => ?_
  split
  · split
    · exact ⟨trivial, fun _ _ => trivial⟩
    · trivial
  · trivial

theorem parseVideoBody_result (decoder : Decoder) (ch : PollChannel) (task task' : Task) (body : String) :
    (parseVideoBody decoder ch task body).1 = (parseVideoBody decoder ch task' body).1 := by
  unfold parseVideoBody
  cases decoder.newApiTask body with
  | some t =>
    dsimp only
    split <;> rfl
  | none =>
    cases decoder.parseTaskResult body with
    | error e => rfl
    | ok taskResult =>
      dsimp only
      split <;> rfl

theorem progresses_congr
    (progresses : Progresses decoder ch task resp) (task' : Task) : Progresses decoder ch task' resp := by
  cases resp with
  | failed => trivial
  | received _ body =>
    intro taskResult reported parsed
    rw [parseVideoBody_result decoder ch task' task] at parsed
    exact progresses taskResult reported parsed

/-- The item ends a task that goes on. -/
def Ends (item : SunoDataResponse) : Prop := (sunoStatus item .unknown).terminal = true

def Plain (item : SunoDataResponse) : Prop := item.failReason ≠ "" → Ends item

/-- The item leaves a task that has ended as it is, or ends it in another way. -/
def Closed (item : SunoDataResponse) : Prop := item.status = "" ∨ Ends item

theorem sunoStatus_terminal {item : SunoDataResponse} {old : TaskStatus} :
    (sunoStatus item old).terminal = true ↔ Ends item ∨ item.status = "" ∧ old.terminal = true := by
  by_cases silent : item.status = ""
  · have unmapped : mapSunoStatusToTaskStatus "" = none := by decide
    simp [Ends, sunoStatus, silent, unmapped, TaskStatus.terminal]
  · simp [Ends, sunoStatus, silent]

theorem reachable_finishSuno {item : SunoDataResponse} (reachable : Reachable task) (plain : Plain item)
    (closed : task.status.terminal = true → Closed item) : Reachable (finishSuno item task) := by
  by_cases ended : (sunoStatus item task.status).terminal = true
  · refine Or.inl ?_
    rw [finishSuno_status, ended]
  have goesOn : ¬Ends item := fun ends => ended (sunoStatus_terminal.mpr (Or.inl ends))
  have unfinished : task.progress ≠ "100%" := by
    refine reachable.resolve_left fun terminal => ?_
    rcases closed terminal with silent | ends
    · exact ended (sunoStatus_terminal.mpr (Or.inr ⟨silent, terminal⟩))
    · exact goesOn ends
  refine Or.inr ?_
  have noReason : item.failReason = "" := by
    by_contra reason
    exact goesOn (plain reason)
  have notFailed : sunoStatus item task.status ≠ .failure := fun failed => ended (by rw [failed]; rfl)
  have notSuccess : mapSunoStatusToTaskStatus item.status ≠ some .success := fun mapped =>
    ended (by rw [sunoStatus, mapped]; rfl)
  have going : sunoFailed item (sunoStatus item task.status) = false := by
    rw [sunoFailed, decide_eq_false (not_not_intro noReason), decide_eq_false notFailed]
    rfl
  simp only [finishSuno, reportSuno, if_neg notSuccess, going, Bool.false_eq_true, ↓reduceIte]
  exact unfinished

/-- Of two items for one task the later one does not reopen it. -/
def InOrder (first second : SunoDataResponse) : Prop := first.taskId = second.taskId → Ends first → Closed second

/-- The items that are still to come, and the tasks in memory that they name. -/
structure Left (items : List SunoDataResponse) (taskM : TaskMap) : Prop where
  ordered : items.Pairwise InOrder
  sound : ∀ item ∈ items, ∀ task, taskM item.taskId = some task →
    Reachable task ∧ Plain item ∧ (task.status.terminal = true → Closed item)

section Suno

variable {taskM : TaskMap} {item : SunoDataResponse} {items later : List SunoDataResponse}

theorem Left.tail (left : Left (item :: items) taskM) : Left items taskM where
  ordered := (pairwise_cons.mp left.ordered).2
  sound other member := left.sound other (mem_cons_of_mem _ member)

theorem Left.finish (left : Left (item :: items) taskM) (found : taskM item.taskId = some task) :
    Reachable (finishSuno item task) ∧ Left items (update taskM item.taskId (some (finishSuno item task))) := by
  obtain ⟨reachable, plain, closed⟩ := left.sound item mem_cons_self task found
  have finished := reachable_finishSuno reachable plain closed
  refine ⟨finished, left.tail.ordered, fun other member updated stored => ?_⟩
  by_cases same : other.taskId = item.taskId
  · rw [same, update_self] at stored
    cases stored
    obtain ⟨_, plainOther, closedOther⟩ := left.tail.sound other member task (same ▸ found)
    refine ⟨finished, plainOther, fun terminal => ?_⟩
    rw [finishSuno_status] at terminal
    rcases sunoStatus_terminal.mp terminal with ends | ⟨_, before⟩
    · exact (pairwise_cons.mp left.ordered).1 other member same.symm ends
    · exact closedOther before
  · rw [update_of_ne same] at stored
    exact left.tail.sound other member updated stored

theorem Left.drop (left : Left (items ++ later) taskM) : Left later taskM := by
  induction items with
  | nil => exact left
  | cons item rest ih => exact ih left.tail

theorem meets_sunoTask (round : Round) (left : Left (item :: items) taskM) :
    Script.Meets discipline (Returns (Left items)) (updateSunoTask round taskM item) () := by
  unfold updateSunoTask
  split
  · trivial
  next task found =>
  obtain ⟨finished, next⟩ := left.finish found
  have saved : Script.Meets discipline (Returns (Left items)) (saveSuno item task taskM) () :=
    meets_ask finished fun _ _ => next
  split
  · split
    · exact meets_ask trivial fun _ _ => saved
    · exact saved
  · exact left.tail

def itemsOf (round : Round) (channelIds : List Int) : List SunoDataResponse :=
  channelIds.flatMap fun channelId => (round.sunoResponse channelId).getD []

theorem meets_suno (round : Round) (channelId : Int) (taskIds : List String)
    (left : Left ((round.sunoResponse channelId).getD [] ++ later) taskM) :
    Script.Meets discipline (Returns (Left later)) (updateSunoTasks round channelId taskIds taskM) () := by
  unfold updateSunoTasks
  split
  · exact meets_ask trivial fun _ _ => left.drop
  split
  next items _ answered =>
    rw [answered] at left
    let invariant : List SunoDataResponse → Unit → TaskMap → Prop := fun rest _ => Left (rest ++ later)
    have step : ∀ item rest acct taskM, invariant (item :: rest) acct taskM →
        Script.Meets discipline (orFails (invariant rest) fun _ => True) (updateSunoTask round taskM item) acct :=
      fun item rest _ taskM left => meets_sunoTask round left
    exact meets_loop step items left
  · exact left.drop

end Suno

theorem meets_videos (round : Round) (platform : TaskPlatform) {channelId : Int} {taskIds : List String}
    (progresses : ∀ upstreamId ∈ taskIds, ∀ ch decoder, round.channel channelId = some ch →
      round.adaptor platform = some decoder → ∀ task, Progresses decoder ch task (round.videoResponse channelId upstreamId))
    (taskM : TaskMap) : Safe (updateVideoTasks round platform channelId taskIds taskM) := by
  unfold updateVideoTasks
  split
  · exact meets_ask trivial fun _ _ => trivial
  next ch found =>
  split
  next decoder adaptor =>
    refine meets_loop_all (fun upstreamId listed _ taskM _ => ?_) trivial
    unfold updateVideoTask
    split
    · trivial
    next task _ =>
      exact meets_then (meets_video (progresses upstreamId listed ch decoder found adaptor task) round.now)
        fun _ _ _ => trivial
  · trivial

def sunoItems (round : Round) (tasks : List Task) : List SunoDataResponse :=
  itemsOf round (round.channelOrder.reorder ((liveTasks tasks .suno).map Task.channelId).dedup)

/-- What the upstreams may answer in a round: only a task that has ended has a full progress or a reason for a
failure, and no item reopens a Suno task that an earlier one has ended. -/
structure Truthful (round : Round) (tasks : List Task) : Prop where
  video : ∀ task ∈ tasks, ∀ ch decoder, round.channel task.channelId = some ch →
    round.adaptor task.platform = some decoder →
    Progresses decoder ch task (round.videoResponse task.channelId task.getUpstreamTaskID)
  ordered : (sunoItems round tasks).Pairwise InOrder
  plain : ∀ item ∈ sunoItems round tasks, ∀ task ∈ tasks, task.platform = .suno → task.getUpstreamTaskID = item.taskId →
    Plain item

section Round

variable {round : Round} {tasks : List Task} (truthful : Truthful round tasks)
  (unfinished : ∀ task ∈ tasks, task.unfinished = true)

include truthful unfinished in
theorem meets_dispatch_suno : Safe (dispatchPlatformUpdate round .suno (liveTasks tasks .suno)) := by
  let invariant : List Int → Unit → TaskMap → Prop := fun rest _ => Left (itemsOf round rest)
  have start : Left (sunoItems round tasks) (taskMap (liveTasks tasks .suno)) := by
    refine ⟨truthful.ordered, fun item listed task found => ?_⟩
    obtain ⟨live, named⟩ := mem_taskMap found
    obtain ⟨⟨member, suno⟩, _⟩ := mem_liveTasks.mp live
    refine ⟨Or.inr (unfinished_progress (unfinished task member)), truthful.plain item listed task member suno named, ?_⟩
    intro terminal
    rw [unfinished_status (unfinished task member)] at terminal
    cases terminal
  have step : ∀ channelId rest acct taskM, invariant (channelId :: rest) acct taskM →
      Script.Meets discipline (orFails (invariant rest) fun _ => True)
        (updateChannel round .suno (liveTasks tasks .suno) taskM channelId) acct :=
    fun channelId rest _ taskM left => meets_suno round channelId _ left
  exact meets_then (meets_loop step _ start) fun _ _ _ => trivial

theorem meets_dispatch {platform : TaskPlatform} {live : List Task}
    (each : ∀ channelId taskM, Safe (updateChannel round platform live taskM channelId)) :
    Safe (dispatchPlatformUpdate round platform live) := by
  have looped : Safe (loop (updateChannel round platform live) (round.channelOrder.reorder (live.map Task.channelId).dedup)
        (taskMap live)) :=
    meets_loop_all (fun channelId _ _ taskM _ => each channelId taskM) trivial
  exact meets_then looped fun _ _ _ => trivial

include truthful in
theorem meets_dispatch_video (name : String) (unnamed : name ∉ ["mj", "suno"]) :
    Safe (dispatchPlatformUpdate round (.video name unnamed) (liveTasks tasks (.video name unnamed))) := by
  refine meets_dispatch fun channelId taskM => ?_
  refine meets_videos round _ (fun upstreamId listed ch decoder found adaptor task => ?_) taskM
  obtain ⟨first, live, here, named⟩ := mem_channelTaskIds.mp listed
  obtain ⟨⟨member, platform⟩, _⟩ := mem_liveTasks.mp live
  rw [← here] at found ⊢
  rw [← named]
  exact progresses_congr (truthful.video first member ch decoder found (platform ▸ adaptor)) task

theorem meets_null (ids : List Int) : Safe (failNullTasks ids) := by
  unfold failNullTasks
  split
  · trivial
  · exact meets_ask trivial fun _ _ => trivial

include truthful unfinished in
theorem meets_tasks : Safe (pollTasks round tasks) := by
  refine meets_loop_all (fun platform _ _ _ _ => meets_then (meets_null _) fun _ _ _ => ?_) trivial
  cases platform with
  | midjourney => exact meets_dispatch fun _ _ => trivial
  | suno => exact meets_dispatch_suno truthful unfinished
  | video name unnamed => exact meets_dispatch_video truthful name unnamed

end Round

def Fit (shared : Shared) : Step → Prop
  | .poll round => Truthful round (getAllUnFinishSyncTasks round.limit shared.tasks)
  | _ => True

theorem truthful_nil (round : Round) : Truthful round [] := by
  have nothing : sunoItems round [] = [] := by
    have none := (round.channelOrder.perm []).eq_nil
    change itemsOf round (round.channelOrder.reorder []) = []
    rw [none]
    rfl
  refine ⟨forall_mem_nil _, ?_, ?_⟩
  · rw [nothing]
    exact .nil
  · rw [nothing]
    exact forall_mem_nil _

theorem reachable_step {shared after : Shared} {step : Step} (reachable : AllReachable shared ())
    (fit : Fit shared step) (run : stepOn pricing shared step = some after) : AllReachable after () := by
  cases step with
  | submit id info res perCallBilling publicTaskId now =>
    obtain ⟨_, same⟩ := ite_none_right_eq_some.mp run
    cases same
    refine reachable_save reachable (Or.inr ?_)
    change "0%" ≠ "100%"
    decide
  | sweep timeoutMinutes now =>
    obtain ⟨⟨outcome, final⟩, ran, rfl⟩ := map_eq_some_iff.mp run
    obtain ⟨_, reached, _⟩ := alone_meets reachable_preserved reachable (meets_sweep timeoutMinutes now) ran
    exact reached
  | poll round =>
    obtain ⟨⟨outcome, final⟩, ran, rfl⟩ := map_eq_some_iff.mp run
    obtain ⟨⟨tasks, mid⟩, performed, rest⟩ := bind_eq_some_iff.mp ran
    cases exec_effect performed with
    | unfinished _ _ found =>
      have truthful : Truthful round tasks := by
        rcases found with rfl | rfl
        · exact fit
        · exact truthful_nil round
      have kept : AllReachable shared.answered () := reachable
      obtain ⟨_, reached, _⟩ := alone_meets reachable_preserved kept
        (meets_tasks truthful (read_unfinished id found)) rest
      exact reached

theorem Reachable.unfinished (reachable : Reachable task) (going : task.status.terminal = false) :
    task.unfinished = true := by
  have progress : task.progress ≠ "100%" := by
    rcases reachable with ended | progress
    · rw [going] at ended
      cases ended
    · exact progress
  rw [Task.unfinished, decide_eq_true progress, going]
  rfl

/-- If all upstreams are truthful, every task that has not ended is found by the query for unfinished tasks, and by the
query for timed-out tasks once its time is over. -/
theorem no_task_lost (pricing : Pricing) (world : World) (faults : List (Option String)) (steps : List Step)
    (after : Shared) (fit : Runs.Guarded (stepOn pricing) Fit ⟨Table.empty, world, faults, []⟩ steps)
    (run : Runs.exec (stepOn pricing) ⟨Table.empty, world, faults, []⟩ steps = some after) (row : Task)
    (stored : row ∈ after.tasks.rows) (going : row.status.terminal = false) (limit : Nat)
    (enough : after.tasks.rows.length ≤ limit) : row ∈ getAllUnFinishSyncTasks limit after.tasks ∧
      ∀ cutoff, row.submitTime < cutoff → row ∈ getTimedOutUnfinishedTasks cutoff limit after.tasks := by
  have start : AllReachable ⟨Table.empty, world, faults, []⟩ () := forall_mem_nil _
  have reachable := exec_invariant (fun _ _ _ kept fit ran => reachable_step kept fit ran) start fit run
  have unfinished := (reachable row stored).unfinished going
  refine ⟨found_mem enough stored unfinished, fun cutoff old => ?_⟩
  refine found_mem enough stored ?_
  rw [Task.timedOut, unfinished, decide_eq_true old]
  rfl

def submittedAndPolled (progress : String) : List Step :=
  [.submit 7 walletRelay.info ⟨"upstream", "", .video "45" channelType_unnamed, 100⟩ false "task" legacyTaskCutoff,
    .poll (videoRound ⟨"IN_PROGRESS", "", "", progress, 0⟩ fun id => some ⟨id, false⟩)]

def noTasks : Shared := ⟨Table.empty, healthy plainEnv emptyDb, [], []⟩

theorem half_done_not_lost :
    ∃ after row, Runs.exec (stepOn perCall) noTasks (submittedAndPolled "50%") = some after ∧ row ∈ after.tasks.rows ∧
      row.status = .inProgress ∧ row ∈ getAllUnFinishSyncTasks 1000 after.tasks := by
  have fit : Runs.Guarded (stepOn perCall) Fit noTasks (submittedAndPolled "50%") := by
    refine guarded_cons trivial rfl (guarded_cons ⟨fun task _ ch decoder found adaptor => ?_, ?_, ?_⟩ rfl
      trivial)
    · cases found
      cases adaptor
      intro taskResult reported parsed same
      cases parsed
      cases same
      decide
    · exact .nil
    · exact forall_mem_nil _
  refine ⟨_, _, rfl, mem_cons_self, rfl, ?_⟩
  exact (no_task_lost perCall _ [] (submittedAndPolled "50%") _ fit rfl _ mem_cons_self rfl 1000 (by decide)).1

/-- An upstream reports a task in progress at 100%: no query finds it again. -/
theorem full_progress_lost :
    ∃ after row, Runs.exec (stepOn perCall) noTasks (submittedAndPolled "100%") = some after ∧ row ∈ after.tasks.rows ∧
      row.status = .inProgress ∧ ∀ limit, row ∉ getAllUnFinishSyncTasks limit after.tasks ∧
        ∀ cutoff, row ∉ getTimedOutUnfinishedTasks cutoff limit after.tasks := by
  refine ⟨_, _, rfl, mem_cons_self, rfl, fun limit => ⟨fun found => ?_, fun cutoff found => ?_⟩⟩
  · exact unfinished_progress (mem_found found) rfl
  · exact unfinished_progress (timedOut_unfinished (mem_found found)) rfl

end Tokengine.Tasks.NoneLost
