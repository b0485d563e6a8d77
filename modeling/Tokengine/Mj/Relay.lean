import Tokengine.Lib.Runs
import Tokengine.Lib.Table
import Tokengine.Lib.Text

/-! The Midjourney relay: `RelayMidjourneySubmit` and `RelaySwapFace` store a task and charge its
price, `UpdateMidjourneyTaskBulk` asks the upstream for the unfinished tasks and returns the
price of those that failed. Prices, the upstream's answers and the acceptance of an insert come
from outside. Two ghost lists record for which task the code moves which amount. -/

namespace Tokengine.Mj
open Text Function

inductive RelayMode
  | imagine | describe | blend | change | simpleChange | action | modal | shorten | upload | video | edits | other
deriving DecidableEq

/-- `dto.MidjourneyResponse`. Of its properties only an image and a status are read, when both are texts. -/
structure Response where
  code : Int
  description : String
  existing : Option (String × String) := none
  result : String := ""
deriving DecidableEq

/-- Why nothing was relayed: an answer of the relay itself, or an index out of range in the handler. -/
inductive Refusal
  | response (response : Response)
  | panicked
deriving DecidableEq

/-- `MidjourneyErrorWrapper(constant.MjRequestError, …)`. -/
def requestError (description : String) : Refusal := .response ⟨4, description, none, ""⟩

/-- `dto.MidjourneyRequest`. -/
structure Request where
  prompt : String := ""
  customId : String := ""
  index : Int := 0
  action : String := ""
  taskId : String := ""
  content : String := ""
deriving DecidableEq

def part (splits : List String) (i : Nat) : Except Refusal String :=
  match splits[i]? with
  | some text => .ok text
  | none => .error .panicked

/-- `strconv.Atoi(splits[3])`. -/
def thirdIndex (splits : List String) : Except Refusal Int := do
  let text ← part splits 3
  match text.toInt? with
  | some index => return index
  | none => throw (requestError "index_parse_failed")

def coverPlusActionToNormalAction (req : Request) : Except Refusal Request := do
  if req.customId = "" then throw (requestError "custom_id_is_required")
  let splits := req.customId.splitOn "::"
  let second ← part splits 1
  let action ← if second = "JOB" then part splits 2 else pure second
  if action = "" then throw (requestError "unknown_action")
  if contains action "upsample" then
    let index ← thirdIndex splits
    return { req with index, action := "UPSCALE" }
  else if contains action "variation" then
    if action = "variation" then
      let index ← thirdIndex splits
      return { req with index, action := "VARIATION" }
    else if action = "low_variation" then return { req with index := 1, action := "LOW_VARIATION" }
    else if action = "high_variation" then return { req with index := 1, action := "HIGH_VARIATION" }
    else return { req with index := 1 }
  else if contains action "pan" then return { req with index := 1, action := "PAN" }
  else if contains action "reroll" then return { req with index := 1, action := "REROLL" }
  else if action = "Outpaint" then return { req with index := 1, action := "ZOOM" }
  else if action = "CustomZoom" then return { req with index := 1, action := "CUSTOM_ZOOM" }
  else if action = "Inpaint" then return { req with index := 1, action := "INPAINT" }
  else throw (requestError ("unknown_action:" ++ req.customId))

/-- The last part of `ConvertSimpleChangeParams`: the index behind the letter of the action. -/
def changeIndex (taskId action : String) : List Char → Except Refusal (Option Request)
  | [] => .error .panicked
  | digit :: _ =>
    match digit.toString.toInt? with
    | some index =>
      .ok (if index < 1 ∨ 4 < index then none else some { taskId, action, index })
    | none => .ok none

def convertSimpleChangeParams (content : String) : Except Refusal (Option Request) :=
  match split content ' ' with
  | [taskId, text] =>
    match (toLower text).toList with
    | [] => .error .panicked
    | 'u' :: rest => changeIndex taskId "UPSCALE" rest
    | 'v' :: rest => changeIndex taskId "VARIATION" rest
    | ['r'] => .ok (some { taskId, action := "REROLL" })
    | _ => .ok none
  | _ => .ok none

structure Midjourney where
  id : Nat
  (code userId : Int)
  (action mjId prompt : String)
  promptEn : String := ""
  description : String
  state : String := ""
  submitTime : Int
  startTime : Int := 0
  finishTime : Int := 0
  imageUrl : String := ""
  videoUrl : String := ""
  videoUrls : String := ""
  status : String := ""
  progress : String := "0%"
  failReason : String := ""
  (channelId quota : Int)
  buttons : String := ""
  properties : String := ""
deriving DecidableEq

/-- What was taken from a user and an API token at submit, and the task it was taken for, if one was stored. -/
structure Charge where
  task : Option Nat
  (userId tokenId wallet token : Int)

structure Refund where
  task : Nat
  (userId wallet token : Int)

/-- The columns and rows, what batch updates have collected for the columns, the tasks the poller holds in `taskM`
and `taskChannelM`, and the ghost lists. -/
structure State where
  batchUpdateEnabled : Bool
  (quota remainQuota collected collectedTokens : Int → Int)
  tasks : Table Midjourney.id
  nextId : Nat
  unfinished : List Midjourney
  charges : List Charge
  refunds : List Refund

def State.fresh (batchUpdateEnabled : Bool) (quota remainQuota : Int → Int) : State :=
  { batchUpdateEnabled, quota, remainQuota, collected := fun _ => 0, collectedTokens := fun _ => 0, tasks := .empty, nextId := 1,
    unfinished := [], charges := [], refunds := [] }

def addTo (column : Int → Int) (id amount : Int) : Int → Int := update column id (column id + amount)

/-- `IncreaseUserQuota` and `DecreaseUserQuota`: the row is written, or the amount is collected. -/
def addUserQuota (id amount : Int) (state : State) : State :=
  { state with
    quota := if state.batchUpdateEnabled then state.quota else addTo state.quota id amount
    collected := if state.batchUpdateEnabled then addTo state.collected id amount else state.collected }

def addTokenQuota (id amount : Int) (state : State) : State :=
  { state with
    remainQuota := if state.batchUpdateEnabled then state.remainQuota else addTo state.remainQuota id amount
    collectedTokens := if state.batchUpdateEnabled then addTo state.collectedTokens id amount else state.collectedTokens }

def batchUpdate (state : State) : State :=
  { state with
    quota id := state.quota id + state.collected id
    remainQuota id := state.remainQuota id + state.collectedTokens id
    collected _ := 0
    collectedTokens _ := 0 }

structure Settings where
  mjActionCheckSuccessEnabled : Bool
  /-- `GetChannelById`: whether the channel is enabled, nothing for an unknown channel. -/
  channelEnabled : Int → Option Bool

structure Upstream where
  statusCode : Int
  response : Response
  body : String

/-- What a submit call brings along: its relay info, the price of its model, the upstream's
answer, and whether the database accepts the new row. -/
structure Call where
  (userId tokenId : Int)
  isPlayground : Bool
  channelId : Int
  price : Except String Int
  upstream : Except Response Upstream
  stored : Bool
  (startTime now : Int)

/-- `PostConsumeQuota(relayInfo, quota, 0, true)` of a call that is paid from the wallet. -/
def postConsumeQuota (call : Call) (task : Option Nat) (quota : Int) (state : State) : State :=
  let token := if call.isPlayground then 0 else quota
  { addTokenQuota call.tokenId (-token) (addUserQuota call.userId (-quota) state) with
    charges := ⟨task, call.userId, call.tokenId, quota, token⟩ :: state.charges }

def getByMJId (state : State) (userId : Int) (mjId : String) : Option Midjourney :=
  state.tasks.rows.find? fun row => row.userId == userId && row.mjId == mjId

def namedTask (mode : RelayMode) (req : Request) : Except Refusal (String × Request) :=
  match mode with
  | .change =>
    if req.action = "" then .error (requestError "action_is_required")
    else if req.index = 0 then .error (requestError "index_is_required")
    else .ok (req.taskId, req)
  | .simpleChange => do
    if req.content = "" then throw (requestError "content_is_required")
    match ← convertSimpleChangeParams req.content with
    | some params => return (params.taskId, { req with action := params.action })
    | none => throw (requestError "content_parse_failed")
  | .modal => .ok (req.taskId, { req with action := "MODAL" })
  | .video => .ok (req.taskId, { req with action := "VIDEO" })
  | _ => .ok ("", req)

def continueTask (cfg : Settings) (state : State) (userId : Int) (mode : RelayMode) (req : Request) :
    Except Refusal (Request × Int) := do
  let (mjId, req) ← namedTask mode req
  match getByMJId state userId mjId with
  | none => throw (requestError "task_not_found")
  | some origin =>
    if cfg.mjActionCheckSuccessEnabled ∧ origin.status ≠ "SUCCESS" ∧ mode ≠ .modal then
      throw (requestError "task_status_not_success")
    match cfg.channelEnabled origin.channelId with
    | none => throw (requestError "get_channel_info_failed")
    | some false => throw (requestError "该任务所属渠道已被禁用")
    | some true => return ({ req with prompt := origin.prompt }, origin.channelId)

def requestedAction (cfg : Settings) (state : State) (call : Call) (mode : RelayMode) (req : Request) :
    Except Refusal (Request × Int) := do
  let (mode, req) ←
    if mode = .action then (RelayMode.change, ·) <$> coverPlusActionToNormalAction req else pure (mode, req)
  let req := if mode = .video then { req with action := "VIDEO" } else req
  match mode with
  | .imagine =>
    if req.prompt = "" then throw (requestError "prompt_is_required")
    return ({ req with action := "IMAGINE" }, call.channelId)
  | .describe => return ({ req with action := "DESCRIBE" }, call.channelId)
  | .edits => return ({ req with action := "EDITS" }, call.channelId)
  | .shorten => return ({ req with action := "SHORTEN" }, call.channelId)
  | .blend => return ({ req with action := "BLEND" }, call.channelId)
  | .upload => return ({ req with action := "UPLOAD" }, call.channelId)
  | mode =>
    if req.taskId = "" then return (req, call.channelId)
    else continueTask cfg state call.userId mode req

def opensDialog (action : String) : Bool := action == "INPAINT" || action == "CUSTOM_ZOOM"

structure Job where
  request : Request
  (channelId quota : Int)

def priced (call : Call) : Except Refusal Int :=
  match call.price with
  | .ok quota => .ok quota
  | .error text => .error (.response ⟨4, text, none, ""⟩)

/-- `RelayMidjourneySubmit` until it asks the upstream. -/
def submitJob (cfg : Settings) (state : State) (call : Call) (mode : RelayMode) (body : Option Request) :
    Except Refusal Job :=
  match body with
  | none => .error (requestError "bind_request_body_failed")
  | some req => do
    let (req, channelId) ← requestedAction cfg state call mode req
    let quota ← priced call
    if opensDialog req.action = false ∧ state.quota call.userId - quota < 0 then
      throw (requestError "quota_not_enough")
    return ⟨req, channelId, quota⟩

def taskAccepted (code : Int) : Bool := code == 1 || code == 21 || code == 22

def describeExisting (now : Int) (resp : Response) (task : Midjourney) : Midjourney × Int :=
  match resp.existing with
  | some (imageUrl, status) =>
    if status = "SUCCESS" then
      ({ task with imageUrl, status, progress := "100%", startTime := now, finishTime := now }, 1)
    else ({ task with imageUrl, status }, resp.code)
  | none => (task, resp.code)

def newTask (call : Call) (job : Job) (resp : Response) (id : Nat) : Midjourney :=
  { id, code := resp.code, userId := call.userId, action := job.request.action, mjId := resp.result,
    prompt := job.request.prompt, description := resp.description, submitTime := call.now,
    failReason := if taskAccepted resp.code then "" else resp.description,
    channelId := job.channelId, quota := job.quota }

def completeUpload (action : String) (known : Midjourney × Int) : Midjourney × Int :=
  if known.2 = 1 ∧ action = "UPLOAD" then ({ known.1 with progress := "100%", status := "SUCCESS" }, known.2) else known

/-- The row `RelayMidjourneySubmit` stores, and the code it goes on with. -/
def submittedTask (call : Call) (job : Job) (resp : Response) (id : Nat) : Midjourney × Int :=
  completeUpload job.request.action
    (if resp.code = 21 then describeExisting call.now resp (newTask call job resp id)
      else (newTask call job resp id, resp.code))

/-- `midjourneyTask.Insert()`. -/
def insertTask (state : State) (task : Midjourney) : State :=
  { state with tasks := state.tasks.save task, nextId := state.nextId + 1 }

/-- What the caller gets: a refusal, the upstream's body, or for a face swap its decoded response. -/
inductive Reply
  | refused (refusal : Refusal)
  | relayed (statusCode : Int) (body : String)
  | answered (statusCode : Int) (resp : Response)

def relayedBody (action : String) (resp : Response) (code : Int) (body : String) : String :=
  let body := if resp.code = 21 ∧ opensDialog action = false then body.replace "\"code\":21" "\"code\":1" else body
  if code = 22 then body.replace "\"code\":22" "\"code\":1" else body

def storeAndCharge (call : Call) (quota : Int) (charged : Bool) (task : Midjourney) (state : State) : State :=
  let state' := if call.stored then insertTask state task else state
  if charged then postConsumeQuota call (if call.stored then some task.id else none) quota state' else state'

/-- Whether `RelayMidjourneySubmit` charges for the answer it got. -/
def submitCharges (job : Job) (upstream : Upstream) : Bool :=
  !opensDialog job.request.action && taskAccepted upstream.response.code && upstream.statusCode == 200

def relayMidjourneySubmit (cfg : Settings) (call : Call) (mode : RelayMode) (body : Option Request)
    (state : State) : State × Reply :=
  match submitJob cfg state call mode body with
  | .error refusal => (state, .refused refusal)
  | .ok job =>
    match call.upstream with
    | .error resp => (state, .refused (.response resp))
    | .ok upstream =>
      let known := submittedTask call job upstream.response state.nextId
      (storeAndCharge call job.quota (submitCharges job upstream) known.1 state,
        if call.stored then
          .relayed upstream.statusCode (relayedBody job.request.action upstream.response known.2 upstream.body)
        else .refused (requestError "insert_midjourney_task_failed"))

structure SwapFaceRequest where
  (sourceBase64 targetBase64 : String)
deriving DecidableEq

/-- `RelaySwapFace` until it asks the upstream: the price of the call. -/
def swapFaceJob (state : State) (call : Call) (body : Option SwapFaceRequest) : Except Refusal Int :=
  match body with
  | none => .error (requestError "bind_request_body_failed")
  | some req => do
    if req.sourceBase64 = "" ∨ req.targetBase64 = "" then
      throw (requestError "sour_base64_and_target_base64_is_required")
    let quota ← priced call
    if state.quota call.userId - quota < 0 then throw (requestError "quota_not_enough")
    return quota

def swapFaceTask (call : Call) (quota : Int) (resp : Response) (id : Nat) : Midjourney :=
  { id, code := resp.code, userId := call.userId, action := "SWAP_FACE", mjId := resp.result,
    prompt := "InsightFace", description := resp.description, submitTime := call.startTime,
    startTime := call.now, channelId := call.channelId, quota }

/-- Whether `RelaySwapFace` charges for the answer it got. -/
def swapFaceCharges (upstream : Upstream) : Bool := upstream.statusCode == 200 && upstream.response.code == 1

def relaySwapFace (call : Call) (body : Option SwapFaceRequest) (state : State) : State × Reply :=
  match swapFaceJob state call body with
  | .error refusal => (state, .refused refusal)
  | .ok quota =>
    match call.upstream with
    | .error resp => (state, .refused (.response resp))
    | .ok upstream =>
      (storeAndCharge call quota (swapFaceCharges upstream) (swapFaceTask call quota upstream.response state.nextId) state,
        if call.stored then .answered upstream.statusCode upstream.response
        else .refused (requestError "insert_midjourney_task_failed"))

/-- `dto.MidjourneyDto`, one item of a polling result. Buttons, properties and a nonempty list of
videos are kept as the JSON text they are stored as. -/
structure Item where
  mjId : String
  promptEn : String := ""
  state : String := ""
  submitTime : Int := 0
  startTime : Int := 0
  finishTime : Int := 0
  imageUrl : String := ""
  videoUrl : String := ""
  videoUrls : Option String := none
  status : String := ""
  progress : String := ""
  failReason : String := ""
  buttons : Option String := none
  properties : Option String := none
deriving DecidableEq

def timeOut (now : Int) (task : Midjourney) (item : Item) : Item :=
  if now - task.submitTime > 3600000 ∧ task.progress ≠ "100%" then
    { item with failReason := "上游任务超时（超过1小时）", status := "FAILURE" }
  else item

def checkMjTaskNeedUpdate (old : Midjourney) (new : Item) : Bool :=
  old.code != 1 || old.progress != new.progress || old.promptEn != new.promptEn || old.state != new.state ||
    old.submitTime != new.submitTime || old.startTime != new.startTime || old.finishTime != new.finishTime ||
    old.imageUrl != new.imageUrl || old.status != new.status || old.failReason != new.failReason ||
    (old.progress != "100%" && new.failReason != "") || old.videoUrl != new.videoUrl ||
    old.videoUrls != new.videoUrls.getD ""

def copyItem (task : Midjourney) (item : Item) : Midjourney :=
  { task with
    code := 1, progress := item.progress, promptEn := item.promptEn, state := item.state
    submitTime := item.submitTime, startTime := item.startTime, finishTime := item.finishTime
    imageUrl := item.imageUrl, status := item.status, failReason := item.failReason
    properties := item.properties.getD task.properties, buttons := item.buttons.getD task.buttons
    videoUrl := item.videoUrl, videoUrls := item.videoUrls.getD "" }

def itemFails (item : Item) : Bool :=
  (item.progress != "100%" && item.failReason != "") || (item.progress == "100%" && item.status == "FAILURE")

def updatedTask (task : Midjourney) (item : Item) : Midjourney :=
  let copied := copyItem task item
  if itemFails item then { copied with progress := "100%" } else copied

/-- `taskM[mjId]`: of several tasks with one upstream id the last one stands in the map. -/
def taskM (state : State) (mjId : String) : Option Midjourney :=
  state.unfinished.reverse.find? fun task => task.mjId == mjId

/-- The status guard of `UpdateWithStatus`: the stored row still has the status the task was read with. -/
def wins (state : State) (task : Midjourney) : Bool :=
  match state.tasks.lookup task.id with
  | some row => row.status == task.status
  | none => false

/-- `IncreaseUserQuota(task.UserId, task.Quota, false)`, which refuses a negative amount. -/
def returnQuota (task : Midjourney) (state : State) : State :=
  if 0 < task.quota then
    { addUserQuota task.userId task.quota state with
      refunds := ⟨task.id, task.userId, task.quota, 0⟩ :: state.refunds }
  else state

/-- The pointer in `taskM` is written through, whether or not the row is. -/
def remember (task : Midjourney) (state : State) : State :=
  { state with unfinished := state.unfinished.map fun other => if other.id = task.id then task else other }

def applyItem (now : Int) (task : Midjourney) (item : Item) (state : State) : State :=
  let item := timeOut now task item
  if checkMjTaskNeedUpdate task item then
    let updated := updatedTask task item
    let state' := remember updated state
    if wins state task then
      let state' := { state' with tasks := state.tasks.save updated }
      if itemFails item then returnQuota updated state' else state'
    else state'
  else state

def updateItem (now : Int) (item : Item) (state : State) : Option State :=
  (taskM state item.mjId).map fun task => applyItem now task item state

def nullTask (row : Midjourney) : Bool := row.progress != "100%" && row.mjId == ""

/-- `GetAllUnFinishTasks` and `MjBulkUpdateByTaskIds`: the tasks without an upstream id are given up. -/
def loadTasks (state : State) : State :=
  { state with
    tasks := state.tasks.modify
      (fun row => if nullTask row then { row with status := "FAILURE", progress := "100%" } else row)
      (fun row => by split <;> rfl)
    unfinished := state.tasks.rows.filter fun row => row.progress != "100%" && row.mjId != "" }

/-- `taskChannelM[channelId]`. -/
def taskChannelM (state : State) (channelId : Int) : List String :=
  (state.unfinished.filter fun task => task.channelId == channelId).map Midjourney.mjId

/-- `MjBulkUpdate` after a failed `CacheGetChannel`. -/
def failChannel (channelId : Int) (state : State) : State :=
  { state with
    tasks := state.tasks.modify
      (fun row => if (taskChannelM state channelId).contains row.mjId then
          { row with failReason := "获取渠道信息失败，请联系管理员，渠道ID：" ++ toString channelId,
                     status := "FAILURE", progress := "100%" }
        else row)
      (fun row => by split <;> rfl) }

/-- Submit calls come in at any time; the one poller loads the tasks, gives up those of a channel
it cannot find and works through the items of the responses. What is collected is written now and then. -/
inductive Label
  | submit (call : Call) (mode : RelayMode) (body : Option Request)
  | swapFace (call : Call) (body : Option SwapFaceRequest)
  | load
  | channelMissing (channelId : Int)
  | item (now : Int) (item : Item)
  | batchUpdate

def step (cfg : Settings) (state : State) : Label → Option State
  | .submit call mode body => some (relayMidjourneySubmit cfg call mode body state).1
  | .swapFace call body => some (relaySwapFace call body state).1
  | .load => some (loadTasks state)
  | .channelMissing channelId => some (failChannel channelId state)
  | .item now item => updateItem now item state
  | .batchUpdate => some (batchUpdate state)

/-- What one iteration of `UpdateMidjourneyTaskBulk` meets: the channels that are cached, and the
items each of them answers with, none when the request fails. -/
structure Round where
  now : Int
  cached : Int → Bool
  items : Int → List Item

def Round.labels (round : Round) (state : State) : List Label :=
  .load :: ((loadTasks state).unfinished.map Midjourney.channelId).dedup.flatMap fun channelId =>
    if round.cached channelId then (round.items channelId).map (.item round.now) else [.channelMissing channelId]

/-- One iteration of `UpdateMidjourneyTaskBulk`. -/
def updateMidjourneyTaskBulk (cfg : Settings) (round : Round) (state : State) : Option State :=
  Runs.exec (step cfg) state (round.labels state)

end Tokengine.Mj
