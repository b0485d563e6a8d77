import Tokengine.Relay.Distribute

/-! The retry loop of `Relay`. The selection of a channel works on the retry counter of the loop and on the index of the
automatic group in the context, which the distributor has set before. -/

namespace Tokengine.Relay.Retry
open Text Channels Distribute

/-! ### Errors -/

structure NewAPIError where
  (message errorCode : String)
  skipRetry : Bool
  statusCode : Int
deriving DecidableEq

def isChannelError (err : NewAPIError) : Bool := hasPrefix err.errorCode "channel:"

def isAlwaysSkipRetryCode (code : String) : Bool := code = "bad_response_body"

def isAlwaysSkipRetryStatusCode (code : Int) : Bool := code = 504 || code = 524

/-- The loop of `shouldMatchStatusCodeRanges`; the ranges are in order. -/
def matchRanges (code : Int) : List (Int × Int) → Bool
  | [] => false
  | range :: rest => if code < range.1 then false else if code ≤ range.2 then true else matchRanges code rest

def shouldMatchStatusCodeRanges (ranges : List (Int × Int)) (code : Int) : Bool :=
  if code < 100 ∨ 599 < code then false else matchRanges code ranges

structure Policy where
  retryTimes : Nat
  automaticRetryStatusCodeRanges : List (Int × Int)
  /-- `ShouldSkipRetryAfterChannelAffinityFailure`. -/
  skipRetryAfterAffinity : Bool
  /-- The token names a channel. -/
  specificChannel : Bool

def shouldRetryByStatusCode (policy : Policy) (code : Int) : Bool :=
  if isAlwaysSkipRetryStatusCode code then false else shouldMatchStatusCodeRanges policy.automaticRetryStatusCodeRanges code

def shouldRetry (policy : Policy) (err : NewAPIError) (retryTimes : Int) : Bool :=
  if policy.skipRetryAfterAffinity then false
  else if isChannelError err then true
  else if err.skipRetry then false
  else if retryTimes ≤ 0 then false
  else if policy.specificChannel then false
  else if 200 ≤ err.statusCode ∧ err.statusCode < 300 then false
  else if err.statusCode < 100 ∨ 599 < err.statusCode then true
  else if isAlwaysSkipRetryCode err.errorCode then false
  else shouldRetryByStatusCode policy err.statusCode

/-! ### The loop -/

structure Turn where
  available : Available
  setupContextForSelectedChannel : Channel → String → Option NewAPIError
  /-- The error of `GetBodyStorage`. -/
  bodyError : Option NewAPIError
  /-- The pieces of a response body that the handler writes to the client. -/
  output : List String
  /-- What the handler returns, after `NormalizeViolationFeeError`. -/
  error : Option NewAPIError

/-- The state of the loop. `hasChannelMeta` says that a handler has run; the last three fields record the run. -/
structure Loop where
  ctx : Context
  param : RetryParam
  hasChannelMeta : Bool
  newAPIError : Option NewAPIError
  ranks : List Rank
  attempts : List (List String)

def getChannelFailed (message : String) : NewAPIError := ⟨message, "get_channel_failed", true, 500⟩

/-- `getChannel`. The first turn takes the channel of the context. -/
def getChannel (cfg : GroupSettings) (policy : Policy) (turn : Turn) (loop : Loop) : Except NewAPIError Unit × Loop :=
  if loop.hasChannelMeta = false then (.ok (), loop)
  else
    let selected := cacheGetRandomSatisfiedChannel cfg policy.retryTimes turn.available loop.ctx loop.param
    let next := { loop with ctx := selected.2.1, param := selected.2.2 }
    match selected.1 with
    | .error e => (.error (getChannelFailed
        ("获取分组 " ++ loop.param.tokenGroup ++ " 下模型 " ++ loop.param.modelName ++ " 的可用渠道失败（retry）: " ++ e)), next)
    | .ok none => (.error (getChannelFailed
        ("分组 " ++ loop.param.tokenGroup ++ " 下模型 " ++ loop.param.modelName ++ " 的可用渠道不存在（retry）")), next)
    | .ok (some picked) =>
      let next := { next with ranks := loop.ranks ++ [picked.rank] }
      match turn.setupContextForSelectedChannel picked.channel loop.param.modelName with
      | some err => (.error err, next)
      | none => (.ok (), next)

inductive Verdict
  | stop (loop : Loop)
  | again (loop : Loop)

def attempt (policy : Policy) (turn : Turn) (loop : Loop) : Verdict :=
  let ran := { loop with hasChannelMeta := true, newAPIError := turn.error, attempts := loop.attempts ++ [turn.output] }
  match turn.error with
  | none => .stop ran
  | some err => if shouldRetry policy err ((policy.retryTimes : Int) - loop.param.retry) then .again ran else .stop ran

def turnOnce (cfg : GroupSettings) (policy : Policy) (turn : Turn) (loop : Loop) : Verdict :=
  match getChannel cfg policy turn loop with
  | (.error err, loop) => .stop { loop with newAPIError := some err }
  | (.ok _, loop) =>
    match turn.bodyError with
    | some err => .stop { loop with newAPIError := some err }
    | none => attempt policy turn loop

/-- The loop of `Relay`, for a number of turns at most; `none` if it has not ended by then. -/
def relayLoop (cfg : GroupSettings) (policy : Policy) (world : Nat → Turn) : Nat → Nat → Loop → Option Loop
  | 0, _, _ => none
  | fuel + 1, now, loop =>
    if loop.param.retry ≤ policy.retryTimes then
      match turnOnce cfg policy (world now) loop with
      | .stop ended => some ended
      | .again next => relayLoop cfg policy world fuel (now + 1) { next with param := next.param.increaseRetry }
    else some loop

end Tokengine.Relay.Retry
