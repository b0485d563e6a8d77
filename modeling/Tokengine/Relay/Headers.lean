import Tokengine.Lib.Table
import Tokengine.Lib.Text

/-! The part of the parameter override that touches headers. The operations of an override work on the body of the
request and on a context, whose entry `header_override` they may change. What an operation does to the body, and
whether its conditions hold, is left to the operation: both see the body and the context only. -/

namespace Tokengine.Relay
open Text

/-- A map from header names to values as `%v` prints them; the rows stand in the order of iteration. -/
abbrev HeaderMap := Table (Prod.fst : String × String → String)

def normalizeHeaderContextKey (key : String) : String := trimSpace (toLower key)

def isHeaderPassthroughRuleKeyForOverride (key : String) : Bool :=
  let rule := trimSpace (toLower key)
  rule == "*" || hasPrefix rule "re:" || hasPrefix rule "regex:"

/-- One turn of the loop of `sanitizeHeaderOverrideMap`. -/
def sanitizeEntry (target : HeaderMap) (entry : String × String) : HeaderMap :=
  let normalizedKey := normalizeHeaderContextKey entry.1
  let normalizedValue := trimSpace entry.2
  if normalizedKey = "" then target
  else if normalizedValue = "" then
    if isHeaderPassthroughRuleKeyForOverride normalizedKey then target.save (normalizedKey, "") else target
  else target.save (normalizedKey, normalizedValue)

def sanitizeHeaderOverrideMap (source : HeaderMap) : HeaderMap := source.rows.foldl sanitizeEntry .empty

def buildRequestHeadersContext (headers : HeaderMap) : HeaderMap :=
  headers.rows.foldl (fun target entry =>
    if normalizeHeaderContextKey entry.1 = "" ∨ trimSpace entry.2 = "" then target
    else target.save (normalizeHeaderContextKey entry.1, trimSpace entry.2)) .empty

structure LastError where
  statusCode : Int
  (message code type : String)
  skipRetry : Bool
  deriving DecidableEq

/-- The map of `BuildParamOverrideContext`. -/
structure OverrideContext where
  (upstreamModel originalModel requestPath : String)
  (requestHeaders headerOverride : HeaderMap)
  retryIndex : Nat
  lastError : Option LastError
  isChannelTest : Bool

inductive Replacement where
  | tokens (values : List String)
  | flag (val : Bool)
  | object
  deriving DecidableEq

/-- The value of a `set_header` operation. -/
inductive HeaderValue where
  | missing
  | text (val : String)
  | mapping (entries : List (String × Replacement))
  deriving DecidableEq

def parseHeaderReplacementTokens : Replacement → Except String (List String)
  | .tokens values => .ok values
  | .flag val => .ok [toString val]
  | .object => .error "header replacement value must be string, array or null"

def splitHeaderListValue (raw : String) : List String :=
  ((split raw ',').map trimSpace).filter (fun token => decide (token ≠ ""))

def getHeaderValueFromContext (ctx : OverrideContext) (headerName : String) : Option String :=
  let name := normalizeHeaderContextKey headerName
  let valueIn (source : HeaderMap) : Option String :=
    ((source.lookup name).map fun entry => trimSpace entry.2).filter fun val => decide (val ≠ "")
  if name = "" then none else (valueIn ctx.headerOverride).or (valueIn ctx.requestHeaders)

def parseHeaderAppendTokens (mapping : List (String × Replacement)) : Except String (List String) :=
  match mapping.lookup "$append" with
  | none => .ok []
  | some val => parseHeaderReplacementTokens val

def parseHeaderKeepOnlyDeclared (mapping : List (String × Replacement)) : Bool :=
  mapping.lookup "$keep_only_declared" == some (.flag true)

def replaceToken (mapping : List (String × Replacement)) (token : String) : Except String (List String) :=
  match mapping.lookup token with
  | some val => parseHeaderReplacementTokens val
  | none =>
    if parseHeaderKeepOnlyDeclared mapping then .ok []
    else match mapping.lookup "*" with
      | some val => parseHeaderReplacementTokens val
      | none => .ok [token]

def resolveHeaderOverrideValueByMapping (ctx : OverrideContext) (headerName : String)
    (mapping : List (String × Replacement)) : Except String (Option String) :=
  if mapping = [] then .error "header value mapping cannot be empty"
  else do
    let appendTokens ← parseHeaderAppendTokens mapping
    let sourceTokens := ((getHeaderValueFromContext ctx headerName).map splitHeaderListValue).getD []
    let replaced ← sourceTokens.mapM (replaceToken mapping)
    let resultTokens := (replaced.flatten ++ appendTokens).eraseDups
    if resultTokens = [] then pure none else pure (some (",".intercalate resultTokens))

def resolveHeaderOverrideValue (ctx : OverrideContext) (headerName : String) :
    HeaderValue → Except String (Option String)
  | .missing => .error "header value is required"
  | .mapping entries => resolveHeaderOverrideValueByMapping ctx headerName entries
  | .text val => .ok (if trimSpace val = "" then none else some (trimSpace val))

def setHeaderOverrideInContext (ctx : OverrideContext) (headerName : String) (val : HeaderValue)
    (keepOrigin : Bool) : Except String OverrideContext :=
  let name := normalizeHeaderContextKey headerName
  let kept := keepOrigin && ((ctx.headerOverride.lookup name).any fun entry => decide (trimSpace entry.2 ≠ ""))
  if name = "" then .error "header name is required"
  else if kept then .ok ctx
  else do
    match ← resolveHeaderOverrideValue ctx name val with
    | none => pure { ctx with headerOverride := ctx.headerOverride.delete name }
    | some headerValue => pure { ctx with headerOverride := ctx.headerOverride.save (name, headerValue) }

def deleteHeaderOverrideInContext (ctx : OverrideContext) (headerName : String) : Except String OverrideContext :=
  let name := normalizeHeaderContextKey headerName
  if name = "" then .error "header name is required"
  else .ok { ctx with headerOverride := ctx.headerOverride.delete name }

/-- No context stands for `errSourceHeaderNotFound`. -/
def copyHeaderInContext (ctx : OverrideContext) (fromHeader toHeader : String) (keepOrigin : Bool) :
    Except String (Option OverrideContext) :=
  if normalizeHeaderContextKey fromHeader = "" ∨ normalizeHeaderContextKey toHeader = "" then
    .error "copy_header from/to is required"
  else match getHeaderValueFromContext ctx fromHeader with
    | none => .ok none
    | some val => (setHeaderOverrideInContext ctx toHeader (.text val) keepOrigin).map some

def moveHeaderInContext (ctx : OverrideContext) (fromHeader toHeader : String) (keepOrigin : Bool) :
    Except String (Option OverrideContext) :=
  if normalizeHeaderContextKey fromHeader = "" ∨ normalizeHeaderContextKey toHeader = "" then
    .error "move_header from/to is required"
  else do
    match ← copyHeaderInContext ctx fromHeader toHeader keepOrigin with
    | none => pure none
    | some copied =>
      if normalizeHeaderContextKey fromHeader = normalizeHeaderContextKey toHeader then pure (some copied)
      else (deleteHeaderOverrideInContext copied fromHeader).map some

def passHeadersInContext (keepOrigin : Bool) : List String → OverrideContext → Except String OverrideContext
  | [], ctx => .ok ctx
  | name :: names, ctx => do
    let copied ← copyHeaderInContext ctx name name keepOrigin
    passHeadersInContext keepOrigin names (copied.getD ctx)

/-- One side of a `sync_fields` operation. -/
inductive SyncTarget (β : Type) where
  | json (read : β → Option HeaderValue) (write : β → HeaderValue → Except String β)
  | header (key : String)

def readSyncTargetValue {β : Type} (body : β) (ctx : OverrideContext) : SyncTarget β → Option HeaderValue
  | .json read _ => read body
  | .header key => (getHeaderValueFromContext ctx key).map .text

def writeSyncTargetValue {β : Type} (body : β) (ctx : OverrideContext) (val : HeaderValue) :
    SyncTarget β → Except String (β × OverrideContext)
  | .json _ write => (write body val).map fun next => (next, ctx)
  | .header key => (setHeaderOverrideInContext ctx key val false).map fun next => (body, next)

def syncFieldsBetweenTargets {β : Type} (body : β) (ctx : OverrideContext) (source target : SyncTarget β) :
    Except String (β × OverrideContext) :=
  match readSyncTargetValue body ctx source, readSyncTargetValue body ctx target with
  | some val, none => writeSyncTargetValue body ctx val target
  | none, some val => writeSyncTargetValue body ctx val source
  | _, _ => .ok (body, ctx)

inductive Change (β : Type) where
  | body (edit : β → OverrideContext → Except String β)
  | returnError (error : String)
  | setHeader (path : String) (val : HeaderValue) (keepOrigin : Bool)
  | deleteHeader (path : String)
  | copyHeader (path source target : String) (keepOrigin : Bool)
  | moveHeader (path source target : String) (keepOrigin : Bool)
  | passHeaders (names : Except String (List String)) (keepOrigin : Bool)
  | syncFields (source target : Except String (SyncTarget β))

structure ParamOperation (β : Type) where
  checkConditions : β → OverrideContext → Except String Bool
  change : Change β

def orPath (path header : String) : String := if trimSpace header = "" then trimSpace path else trimSpace header

def failed {α : Type} (mode : String) (res : Except String α) : Except String α :=
  res.mapError fun e => "operation " ++ mode ++ " failed: " ++ e

def applyChange {β : Type} (body : β) (ctx : OverrideContext) : Change β → Except String (β × OverrideContext)
  | .body edit => (edit body ctx).map fun next => (next, ctx)
  | .returnError error => .error error
  | .setHeader path val keepOrigin =>
    failed "set_header" ((setHeaderOverrideInContext ctx path val keepOrigin).map fun next => (body, next))
  | .deleteHeader path =>
    failed "delete_header" ((deleteHeaderOverrideInContext ctx path).map fun next => (body, next))
  | .copyHeader path source target keepOrigin =>
    failed "copy_header" ((copyHeaderInContext ctx (orPath path source) (orPath path target) keepOrigin).map
      fun next => (body, next.getD ctx))
  | .moveHeader path source target keepOrigin =>
    failed "move_header" ((moveHeaderInContext ctx (orPath path source) (orPath path target) keepOrigin).map
      fun next => (body, next.getD ctx))
  | .passHeaders names keepOrigin => do
    let headerNames ← names
    failed "pass_headers" ((passHeadersInContext keepOrigin headerNames ctx).map fun next => (body, next))
  | .syncFields source target => failed "sync_fields" do
    let source ← source
    let target ← target
    syncFieldsBetweenTargets body ctx source target

def applyOperations {β : Type} : List (ParamOperation β) → β → OverrideContext → Except String (β × OverrideContext)
  | [], body, ctx => .ok (body, ctx)
  | operation :: operations, body, ctx => do
    if ← operation.checkConditions body ctx then
      let (body, ctx) ← applyChange body ctx operation.change
      applyOperations operations body ctx
    else applyOperations operations body ctx

/-- The parameter override of a channel: nothing, fields to set, or operations beside such fields. -/
inductive ParamOverride (β : Type) where
  | empty
  | legacy (edit : β → Except String β)
  | operations (legacy : Option (β → Except String β)) (operations : List (ParamOperation β))

def applyParamOverride {β : Type} (body : β) (ctx : OverrideContext) :
    ParamOverride β → Except String (β × OverrideContext)
  | .empty => .ok (body, ctx)
  | .legacy edit => (edit body).map fun next => (next, ctx)
  | .operations legacy operations => do
    let working ← match legacy with
      | none => pure body
      | some edit => edit body
    applyOperations operations working ctx

end Tokengine.Relay
