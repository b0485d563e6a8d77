import Tokengine.Channels.Channel
import Tokengine.Relay.ModelMapping

/-! Which group a relay request is served and priced in: the token middleware establishes a group, the request is read
by its path, and the distributor chooses a channel. -/

namespace Tokengine.Relay.Distribute
open Text Channels
open ModelMapping (withCompactModelSuffix)

abbrev GroupMap := Table (Prod.fst : String × String → String)

/-- The settings on groups. The rows of a map stand in the order in which it is walked. -/
structure GroupSettings where
  userUsableGroups : GroupMap
  groupSpecialUsableGroup : Table (Prod.fst : String × GroupMap → String)
  /-- The groups that have a ratio. -/
  (groupRatio autoGroups : List String)

def applySpecial (groups : GroupMap) (entry : String × String) : GroupMap :=
  if hasPrefix entry.1 "-:" then groups.delete (trimPrefix entry.1 "-:")
  else if hasPrefix entry.1 "+:" then groups.save (trimPrefix entry.1 "+:", entry.2)
  else groups.save entry

def getUserUsableGroups (cfg : GroupSettings) (userGroup : String) : GroupMap :=
  if userGroup = "" then cfg.userUsableGroups
  else
    let groups := match cfg.groupSpecialUsableGroup.lookup userGroup with
      | some special => special.2.rows.foldl applySpecial cfg.userUsableGroups
      | none => cfg.userUsableGroups
    if (groups.lookup userGroup).isSome then groups else groups.save (userGroup, "用户分组")

def groupInUserUsableGroups (cfg : GroupSettings) (userGroup groupName : String) : Bool :=
  ((getUserUsableGroups cfg userGroup).lookup groupName).isSome

def getUserAutoGroup (cfg : GroupSettings) (userGroup : String) : List String :=
  cfg.autoGroups.filter fun group => groupInUserUsableGroups cfg userGroup group

structure Token where
  userId : Int
  group : String
  modelLimitsEnabled : Bool
  modelLimits : List String
  crossGroupRetry : Bool
deriving DecidableEq

structure Context where
  id : Int
  (userGroup usingGroup tokenGroup : String)
  tokenModelLimit : Option (List String)
  tokenCrossGroupRetry : Bool
  specificChannelId : Option String
  autoGroup : Option String := none
  autoGroupIndex : Option Nat := none
deriving DecidableEq

/-- `abortWithOpenAiMessage`. -/
structure Abort where
  status : Nat
  message : String
  code : String := ""

/-- `SetupContextForToken`. The parts are those of the key, which `-` separates. -/
def setupContextForToken (isAdmin : Int → Bool) (ctx : Context) (token : Token) (parts : List String) :
    Except Abort Context :=
  let ctx := { ctx with
    id := token.userId
    tokenModelLimit := if token.modelLimitsEnabled then some token.modelLimits else none
    tokenGroup := token.group
    tokenCrossGroupRetry := token.crossGroupRetry }
  match parts with
  | _ :: channelId :: _ =>
    if isAdmin token.userId then .ok { ctx with specificChannelId := some channelId }
    else .error ⟨403, "普通用户不支持指定渠道", ""⟩
  | _ => .ok ctx

/-- `TokenAuth`, for a valid token of an enabled user whose group is `userGroup`. -/
def tokenAuth (cfg : GroupSettings) (isAdmin : Int → Bool) (userGroup : String) (token : Token)
    (parts : List String) : Except Abort Context :=
  if token.group ≠ "" ∧ ¬groupInUserUsableGroups cfg userGroup token.group then
    .error ⟨403, "无权访问 " ++ token.group ++ " 分组", ""⟩
  else if token.group ≠ "" ∧ token.group ∉ cfg.groupRatio ∧ token.group ≠ "auto" then
    .error ⟨403, "分组 " ++ token.group ++ " 已被弃用", ""⟩
  else
    let usingGroup := if token.group ≠ "" then token.group else userGroup
    setupContextForToken isAdmin
      { id := 0, userGroup, usingGroup, tokenGroup := "", tokenModelLimit := none, tokenCrossGroupRetry := false,
        specificChannelId := none } token parts

structure ModelRequest where
  (model group : String)

/-- What `Path2RelayModeMidjourney` and `GetMjRequestModel` make of a Midjourney request. -/
inductive Midjourney where
  | fetch
  | undecodable (error : String)
  | refused (description : String)
  | parsed (model : String) (success : Bool)

/-- A relay request. The body stands for what it decodes to, or for the error of decoding it. -/
structure Request where
  (path method contentType : String)
  body : Except String ModelRequest
  midjourney : Midjourney
  /-- The model of the action that is submitted to Suno, and nothing for a fetch. -/
  suno : Option String
  (queryModel paramModel : String)

structure Gateway where
  /-- `i18n.T`. -/
  translate : String → List (String × String) → String
  isModelBlacklisted : String → Bool
  isModelSpecifiedForUser : Int → String → Bool
  /-- `GetChannelById` of the number that a text stands for. -/
  getChannelById : String → Option Channel
  getPreferredChannelByAffinity : String → String → Option Int
  cacheGetChannel : Int → Option Channel
  shouldSkipRetryAfterChannelAffinityFailure : Bool
  isChannelEnabledForGroupModel : String → String → Int → Bool
  getRandomSatisfiedChannel : String → String → Nat → Except String (Option Channel)
  retryTimes : Nat
  setupContextForSelectedChannel : Channel → String → Option Abort

def getModelFromRequest (gateway : Gateway) (request : Request) : Except String ModelRequest :=
  request.body.mapError fun e => gateway.translate "distributor.invalid_request" [("Error", e)]

def extractModelNameFromGeminiPath (path : String) : String :=
  match after path "/models/" with
  | none => ""
  | some rest => String.ofList (rest.toList.takeWhile (· ≠ ':'))

/-- What `getModelRequest` has read so far. -/
structure Reading where
  request : ModelRequest
  shouldSelectChannel : Bool
  ctx : Context

def agnesModel (model : String) : String := if contains (toLower model) "agnes" then toLower model else model

def readMidjourney (gateway : Gateway) (ctx : Context) : Midjourney → Except String Reading
  | .fetch => .ok ⟨⟨"", ""⟩, false, ctx⟩
  | .undecodable e => .error (gateway.translate "distributor.invalid_midjourney_request" [("Error", e)])
  | .refused description => .error description
  | .parsed model success =>
    if model ≠ "" then .ok ⟨⟨model, ""⟩, true, ctx⟩
    else if success then .ok ⟨⟨"", ""⟩, false, ctx⟩
    else .error (gateway.translate "distributor.invalid_request_parse_model" [])

def readVideo (gateway : Gateway) (request : Request) (ctx : Context) : Except String Reading :=
  if request.method = "POST" then
    (getModelFromRequest gateway request).map fun req =>
      ⟨⟨agnesModel req.model, req.group⟩, true,
        if req.group = "" then ctx else { ctx with tokenGroup := req.group, usingGroup := req.group }⟩
  else .ok ⟨⟨"", ""⟩, request.method ≠ "GET", ctx⟩

def isVideoGeneration (path : String) : Bool :=
  !contains path "/mj/" && !contains path "/suno/" && !contains path "/v1/videos" &&
    (contains path "/v1/video/generations" || contains path "/pg/video/generations")

/-- The branches of `getModelRequest` that exclude each other. -/
def readPath (gateway : Gateway) (request : Request) (ctx : Context) : Except String Reading :=
  let path := request.path
  if contains path "/mj/" then readMidjourney gateway ctx request.midjourney
  else if contains path "/suno/" then .ok ⟨⟨request.suno.getD "", ""⟩, request.suno.isSome, ctx⟩
  else if contains path "/v1/videos/" && hasSuffix path "/remix" then .ok ⟨⟨"", ""⟩, false, ctx⟩
  else if contains path "/v1/videos" then
    if request.method = "POST" then
      (getModelFromRequest gateway request).map fun req => ⟨⟨agnesModel req.model, ""⟩, true, ctx⟩
    else .ok ⟨⟨"", ""⟩, request.method ≠ "GET", ctx⟩
  else if contains path "/v1/video/generations" || contains path "/pg/video/generations" then
    readVideo gateway request ctx
  else if hasPrefix path "/v1beta/models/" || hasPrefix path "/v1/models/" then
    .ok ⟨⟨extractModelNameFromGeminiPath path, ""⟩, true, ctx⟩
  else if !hasPrefix path "/v1/audio/transcriptions" && !contains request.contentType "multipart/form-data" then
    (getModelFromRequest gateway request).map fun req => ⟨⟨req.model, ""⟩, true, ctx⟩
  else .ok ⟨⟨"", ""⟩, true, ctx⟩

/-- `gin.Context.ContentType`. -/
def mediaType (contentType : String) : String := String.ofList (contentType.toList.takeWhile fun c => c ≠ ' ' && c ≠ ';')

def bodyModelOr (request : Request) (model : String) : String :=
  match request.body with
  | .ok req => if req.model ≠ "" then req.model else model
  | .error _ => model

def getStringIfEmpty (text default : String) : String := if text = "" then default else text

def impliedModel (gateway : Gateway) (request : Request) (model : String) : Except String String :=
  let path := request.path
  let model := if hasPrefix path "/v1/realtime" then request.queryModel else model
  let model := if hasPrefix path "/v1/moderations" then getStringIfEmpty model "text-moderation-stable" else model
  let model := if hasSuffix path "embeddings" then getStringIfEmpty model request.paramModel else model
  let audio (model : String) : String :=
    if hasPrefix path "/v1/audio/speech" then getStringIfEmpty model "tts-1"
    else if hasPrefix path "/v1/audio/translations" || hasPrefix path "/v1/audio/transcriptions" then
      getStringIfEmpty (bodyModelOr request model) "whisper-1"
    else model
  if hasPrefix path "/v1/images/generations" then .ok (audio (getStringIfEmpty model "dall-e"))
  else if hasPrefix path "/pg/images/generations" then
    if model = "" then .error (gateway.translate "distributor.model_name_required" []) else .ok (audio model)
  else if hasPrefix path "/v1/images/edits" then
    if mediaType request.contentType ∈ ["application/x-www-form-urlencoded", "multipart/form-data"] then
      .ok (audio (bodyModelOr request model))
    else .ok (audio model)
  else .ok (audio model)

def isPlayground (path : String) : Bool := hasPrefix path "/pg/chat/completions" || hasPrefix path "/pg/images/generations"

def readPlayground (gateway : Gateway) (request : Request) (reading : Reading) : Except String Reading :=
  if isPlayground request.path then
    (getModelFromRequest gateway request).map fun req =>
      { reading with request := req, ctx := { reading.ctx with tokenGroup := req.group } }
  else .ok reading

def compactModel (path model : String) : String :=
  if hasPrefix path "/v1/responses/compact" && model ≠ "" then withCompactModelSuffix model else model

def getModelRequest (gateway : Gateway) (request : Request) (ctx : Context) : Except String Reading := do
  let reading ← readPath gateway request ctx
  let model ← impliedModel gateway request reading.request.model
  let reading ← readPlayground gateway request { reading with request := { reading.request with model } }
  .ok { reading with request := { reading.request with model := compactModel request.path reading.request.model } }

structure RetryParam where
  (tokenGroup modelName : String)
  retry : Nat := 0
  resetNextTry : Bool := false

def RetryParam.increaseRetry (param : RetryParam) : RetryParam :=
  if param.resetNextTry then { param with resetNextTry := false } else { param with retry := param.retry + 1 }

abbrev Rank := Nat × Nat

structure Picked where
  channel : Channel
  selectGroup : String
  rank : Rank

/-- `GetRandomSatisfiedChannel` as it answers during one selection. -/
abbrev Available := String → String → Nat → Except String (Option Channel)

/-- The loop over the automatic groups, from index `i` on. -/
def selectAuto (retryTimes : Nat) (available : Available) :
    Nat → Nat → List String → Context → RetryParam → Option Picked × Context × RetryParam
  | _, _, [], ctx, param => (none, ctx, param)
  | i, priorityRetry, autoGroup :: rest, ctx, param =>
    match (available autoGroup param.modelName priorityRetry).toOption.bind id with
    | none =>
      -- the counter is reset for the next group
      selectAuto retryTimes available (i + 1) 0 rest { ctx with autoGroupIndex := some (i + 1) } { param with retry := 0 }
    | some ch =>
      if ctx.tokenCrossGroupRetry = true ∧ retryTimes ≤ priorityRetry then
        (some ⟨ch, autoGroup, (i, priorityRetry)⟩,
          { ctx with autoGroup := some autoGroup, autoGroupIndex := some (i + 1) },
          { param with retry := 0, resetNextTry := true })
      else
        (some ⟨ch, autoGroup, (i, priorityRetry)⟩, { ctx with autoGroup := some autoGroup, autoGroupIndex := some i }, param)

def cacheGetRandomSatisfiedChannel (cfg : GroupSettings) (retryTimes : Nat) (available : Available) (ctx : Context)
    (param : RetryParam) : Except String (Option Picked) × Context × RetryParam :=
  if param.tokenGroup = "auto" then
    if cfg.autoGroups = [] then (.error "auto groups is not enabled", ctx, param)
    else
      let start := ctx.autoGroupIndex.getD 0
      let selected := selectAuto retryTimes available start param.retry
        ((getUserAutoGroup cfg ctx.userGroup).drop start) ctx param
      (.ok selected.1, selected.2)
  else
    ((available param.tokenGroup param.modelName param.retry).map fun ch =>
      ch.map fun ch => ⟨ch, param.tokenGroup, (0, param.retry)⟩, ctx, param)

/-- A channel that was chosen, and the group it was selected in. A channel that the token names is not selected by group. -/
structure Selection where
  channel : Channel
  selectGroup : Option String

def playgroundGroup (gateway : Gateway) (request : Request) : Except Abort String :=
  match request.body with
  | .ok req => .ok req.group
  | .error e => .error ⟨400, gateway.translate
      (if isPlayground request.path then "distributor.invalid_playground_request" else "distributor.invalid_request")
      [("Error", e)], ""⟩

def chooseGroup (cfg : GroupSettings) (gateway : Gateway) (request : Request) (ctx : Context) : Except Abort Context :=
  if isPlayground request.path || hasPrefix request.path "/pg/video/generations" then do
    let group ← playgroundGroup gateway request
    if group = "" then .ok ctx
    else if !groupInUserUsableGroups cfg ctx.usingGroup group && group ≠ ctx.usingGroup then
      .error ⟨403, gateway.translate "distributor.group_access_denied" [], ""⟩
    else .ok { ctx with usingGroup := group }
  else .ok ctx

def preferredChannel (cfg : GroupSettings) (gateway : Gateway) (model : String) (ctx : Context) :
    Except Abort (Option Selection × Context) :=
  match (gateway.getPreferredChannelByAffinity model ctx.usingGroup).bind gateway.cacheGetChannel with
  | none => .ok (none, ctx)
  | some preferred =>
    if preferred.status ≠ channelStatusEnabled then
      if gateway.shouldSkipRetryAfterChannelAffinityFailure then
        .error ⟨403, gateway.translate "distributor.channel_disabled" [], ""⟩
      else .ok (none, ctx)
    else if ctx.usingGroup = "auto" then
      match (getUserAutoGroup cfg ctx.userGroup).find? fun group =>
          gateway.isChannelEnabledForGroupModel group model preferred.id with
      | some group => .ok (some ⟨preferred, some group⟩, { ctx with autoGroup := some group })
      | none => .ok (none, ctx)
    else if gateway.isChannelEnabledForGroupModel ctx.usingGroup model preferred.id then
      .ok (some ⟨preferred, some ctx.usingGroup⟩, ctx)
    else .ok (none, ctx)

def selectChannel (cfg : GroupSettings) (gateway : Gateway) (model : String) (ctx : Context) :
    Except Abort (Selection × Context) := do
  match ← preferredChannel cfg gateway model ctx with
  | (some selection, ctx) => .ok (selection, ctx)
  | (none, ctx) =>
    match cacheGetRandomSatisfiedChannel cfg gateway.retryTimes gateway.getRandomSatisfiedChannel ctx
        { tokenGroup := ctx.usingGroup, modelName := model } with
    | (.error e, _) =>
      let showGroup := if ctx.usingGroup = "auto" then "auto(" ++ ctx.usingGroup ++ ")" else ctx.usingGroup
      .error ⟨503, gateway.translate "distributor.get_channel_failed"
        [("Group", showGroup), ("Model", model), ("Error", e)], "model_not_found"⟩
    | (.ok none, ctx, _) =>
      .error ⟨503, gateway.translate "distributor.no_available_channel"
        [("Group", ctx.usingGroup), ("Model", model)], "model_not_found"⟩
    | (.ok (some picked), ctx, _) => .ok (⟨picked.channel, some picked.selectGroup⟩, ctx)

def specificChannel (gateway : Gateway) (channelId : String) : Except Abort Channel :=
  match gateway.getChannelById channelId with
  | none => .error ⟨400, gateway.translate "distributor.invalid_channel_id" [], ""⟩
  | some ch =>
    if ch.status ≠ channelStatusEnabled then
      .error ⟨403, gateway.translate "distributor.channel_disabled" [], ""⟩
    else .ok ch

def checkBlacklist (gateway : Gateway) (ctx : Context) (model : String) : Except Abort Unit :=
  if model ≠ "" ∧ gateway.isModelBlacklisted model ∧ ¬(0 < ctx.id ∧ gateway.isModelSpecifiedForUser ctx.id model) then
    .error ⟨403, gateway.translate "distributor.model_blacklisted" [("Model", model)], ""⟩
  else .ok ()

def checkModelLimit (gateway : Gateway) (ctx : Context) (model : String) : Except Abort Unit :=
  match ctx.tokenModelLimit with
  | none => .ok ()
  | some limit =>
    if formatMatchingModelName model ∈ limit then .ok ()
    else .error ⟨403, gateway.translate "distributor.token_model_forbidden" [("Model", model)], ""⟩

def choose (cfg : GroupSettings) (gateway : Gateway) (request : Request) (reading : Reading) :
    Except Abort (Option Selection × Context) :=
  match reading.ctx.specificChannelId with
  | some channelId => (specificChannel gateway channelId).map fun ch => (some ⟨ch, none⟩, reading.ctx)
  | none => do
    checkModelLimit gateway reading.ctx reading.request.model
    if !reading.shouldSelectChannel then .ok (none, reading.ctx)
    else if reading.request.model = "" then .error ⟨400, gateway.translate "distributor.model_name_required" [], ""⟩
    else
      let ctx ← chooseGroup cfg gateway request reading.ctx
      (selectChannel cfg gateway reading.request.model ctx).map fun chosen => (some chosen.1, chosen.2)

/-- `Distribute`, up to the handlers that follow it. -/
def distribute (cfg : GroupSettings) (gateway : Gateway) (request : Request) (ctx : Context) :
    Except Abort (Option Selection × Context) := do
  let reading ← (getModelRequest gateway request ctx).mapError fun e =>
    ⟨400, gateway.translate "distributor.invalid_request" [("Error", e)], ""⟩
  checkBlacklist gateway reading.ctx reading.request.model
  let chosen ← choose cfg gateway request reading
  match chosen.1.bind fun selection => gateway.setupContextForSelectedChannel selection.channel reading.request.model with
  | some failure => .error { failure with code := "model_not_found" }
  | none => .ok chosen

/-- The group whose ratio `HandleGroupRatio` takes. -/
def pricingGroup (ctx : Context) : String := ctx.autoGroup.getD ctx.usingGroup

end Tokengine.Relay.Distribute
