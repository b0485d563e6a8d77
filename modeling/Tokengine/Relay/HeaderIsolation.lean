import Tokengine.Relay.Attempts

/-! The headers of an attempt. An attempt sees the request, the retry index, the last error, its own channel and the
headers that an earlier override has left in the record. As long as no override has been applied there are none, and
the attempt sends what it would send as the first one. -/

namespace Tokengine.Relay

structure View (β : Type) where
  (originModelName requestURLPath : String)
  requestHeaders : HeaderMap
  isChannelTest : Bool
  retryIndex : Nat
  lastError : Option LastError
  channelMeta : Option (ChannelMeta β)
  /-- The headers that an override has left. -/
  runtimeHeaders : Option HeaderMap

variable {β : Type} {overrideError : String → LastError} {info info' : RelayInfo β}

def RelayInfo.view (info : RelayInfo β) : View β where
  originModelName := info.originModelName
  requestURLPath := info.requestURLPath
  requestHeaders := info.requestHeaders
  isChannelTest := info.isChannelTest
  retryIndex := info.retryIndex
  lastError := info.lastError
  channelMeta := info.channelMeta
  runtimeHeaders := if info.useRuntimeHeadersOverride then some info.runtimeHeadersOverride else none

def View.effectiveHeaders (view : View β) : HeaderMap :=
  sanitizeHeaderOverrideMap
    (view.runtimeHeaders.getD ((view.channelMeta.map ChannelMeta.headersOverride).getD .empty))

def View.context (view : View β) : OverrideContext where
  upstreamModel := (view.channelMeta.map ChannelMeta.upstreamModelName).getD ""
  originalModel := view.originModelName
  requestPath := view.requestURLPath
  requestHeaders := buildRequestHeadersContext view.requestHeaders
  headerOverride := sanitizeHeaderOverrideMap view.effectiveHeaders
  retryIndex := view.retryIndex
  lastError := view.lastError
  isChannelTest := view.isChannelTest

def View.paramOverride (view : View β) : ParamOverride β := (view.channelMeta.map ChannelMeta.paramOverride).getD .empty

theorem effectiveHeaders_view (info : RelayInfo β) : info.getEffectiveHeaderOverride = info.view.effectiveHeaders := by
  unfold RelayInfo.getEffectiveHeaderOverride View.effectiveHeaders RelayInfo.view
  split <;> rfl

theorem context_view (info : RelayInfo β) : info.buildParamOverrideContext = info.view.context := by
  unfold RelayInfo.buildParamOverrideContext
  rw [effectiveHeaders_view]
  rfl

@[simp]
theorem view_appendRequestConversion (format : RelayFormat) : (info.appendRequestConversion format).view = info.view := by
  unfold RelayInfo.appendRequestConversion
  split <;> rfl

@[simp]
theorem view_appendRequestConversionFromRequest (req : RequestType) :
    (info.appendRequestConversionFromRequest req).view = info.view := by
  unfold RelayInfo.appendRequestConversionFromRequest
  split
  · rfl
  · exact view_appendRequestConversion _

def View.override (overrideError : String → LastError) (view : View β) (body : β) : View β × Except LastError Unit :=
  match view.paramOverride with
  | .empty => (view, .ok ())
  | override => match applyParamOverride body view.context override with
    | .error e => (view, .error (overrideError e))
    | .ok (_, context) =>
      ({ view with runtimeHeaders := some (sanitizeHeaderOverrideMap context.headerOverride) }, .ok ())

theorem overrideBody_view (info : RelayInfo β) (body : β) : ((overrideBody overrideError info body).1.view,
      (overrideBody overrideError info body).2) = info.view.override overrideError body := by
  have same : info.view.paramOverride = info.getParamOverrideMap := rfl
  unfold overrideBody RelayInfo.applyParamOverrideWithRelayInfo View.override
  rw [context_view, same]
  cases info.getParamOverrideMap with
  | empty => rfl
  | legacy edit =>
    cases applied : applyParamOverride body info.view.context (.legacy edit) with
    | error | ok => simp only [applied]; rfl
  | operations legacy operations =>
    cases applied : applyParamOverride body info.view.context (.operations legacy operations) with
    | error | ok => simp only [applied]; rfl

def View.prepare (overrideError : String → LastError) (view : View β) : Route β → View β × Except LastError Unit
  | .passThrough => (view, .ok ())
  | .form _ => (view, .ok ())
  | .converted _ body => view.override overrideError body
  | .viaResponses chat rewritten req =>
    let overridden := view.override overrideError chat
    (overridden.1, overridden.2.bind fun _ => rewritten.bind fun _ => req.map fun _ => ())

theorem prepare_view (route : Route β) (info : RelayInfo β) : ((route.prepare overrideError info).1.view,
      (route.prepare overrideError info).2) = info.view.prepare overrideError route := by
  cases route with
  | passThrough => rfl
  | form req => simp [Route.prepare, View.prepare]
  | converted req body =>
    have overridden := @overrideBody_view _ overrideError
      (info.appendRequestConversionFromRequest req) body
    rw [view_appendRequestConversionFromRequest] at overridden
    exact overridden
  | viaResponses chat rewritten req =>
    have overridden := @overrideBody_view _ overrideError info chat
    simp only [Route.prepare, View.prepare, ← overridden]
    rcases overrideBody overrideError info chat with ⟨middle, _ | _⟩
    · rfl
    · cases rewritten with
      | error e => rfl
      | ok val => cases req <;> simp [responsesRequest, Except.bind, Except.map]

def Attempt.started (attempt : Attempt β) (view : View β) : View β :=
  { view with retryIndex := attempt.retryIndex, channelMeta := some attempt.channel }

def Attempt.headers (overrideError : String → LastError) (attempt : Attempt β) (view : View β) : Option HeaderMap :=
  match attempt.conversion with
  | .error _ => none
  | .ok route =>
    let prepared := (attempt.started view).prepare overrideError route
    match prepared.2 with
    | .error _ => none
    | .ok _ => some prepared.1.effectiveHeaders

def Attempt.leaves (overrideError : String → LastError) (attempt : Attempt β) (view : View β) : View β :=
  match attempt.conversion with
  | .error _ => attempt.started view
  | .ok route => ((attempt.started view).prepare overrideError route).1

theorem view_started (attempt : Attempt β) (info : RelayInfo β) :
    (addOtherRatios (attempt.begin info) attempt.conversionRatios).view = attempt.started info.view := rfl

theorem run_seen (attempt : Attempt β) (info : RelayInfo β) :
    (attempt.run overrideError info).headers = attempt.headers overrideError info.view ∧
      (attempt.run overrideError info).info.view = attempt.leaves overrideError info.view := by
  unfold Attempt.run Attempt.headers Attempt.leaves
  cases attempt.conversion with
  | error e => exact ⟨rfl, rfl⟩
  | ok route =>
    have prepared := @prepare_view _ overrideError route
      (addOtherRatios (attempt.begin info) attempt.conversionRatios)
    rw [view_started] at prepared
    simp only [← prepared]
    rcases route.prepare overrideError _ with ⟨record, _ | _⟩
    · exact ⟨rfl, rfl⟩
    cases attempt.request with
    | error e => exact ⟨by simp [effectiveHeaders_view], rfl⟩
    | ok val =>
      refine ⟨by simp [effectiveHeaders_view], ?_⟩
      unfold Attempt.receive
      dsimp only
      split <;> rfl

section Isolation

variable (overrideError : String → LastError) (req : RelayRequest)

def untried (info : RelayInfo β) : RelayInfo β := { genRelayInfo req with lastError := info.lastError }

def Isolated (info : RelayInfo β) : Prop := ∀ next : Attempt β,
  (next.run overrideError info).headers =
    (next.run overrideError (untried req info)).headers

def ParamOverride.isEmpty : ParamOverride β → Bool
  | .empty => true
  | _ => false

def Route.overridden : Route β → Option β
  | .converted _ body => some body
  | .viaResponses chat _ _ => some chat
  | _ => none

def Overrides (info : RelayInfo β) (attempt : Attempt β) : Prop :=
  ∃ route body, attempt.conversion = .ok route ∧ route.overridden = some body ∧
    attempt.channel.paramOverride.isEmpty = false ∧
      ∃ res, applyParamOverride body (attempt.begin info).buildParamOverrideContext attempt.channel.paramOverride =
        .ok res

def FailsBare (info : RelayInfo β) (attempt : Attempt β) : Prop :=
  (tryChannel overrideError info attempt).isSome → ¬Overrides info attempt

structure FromRequest (view : View β) : Prop where
  originModelName : view.originModelName = req.originModelName
  requestURLPath : view.requestURLPath = req.requestURLPath
  requestHeaders : view.requestHeaders = req.requestHeaders
  isChannelTest : view.isChannelTest = req.isChannelTest

variable {overrideError req} {view : View β}

theorem FromRequest.override (origin : FromRequest req view) (body : β) :
    FromRequest req (view.override overrideError body).1 := by
  unfold View.override
  split
  · exact origin
  · split
    · exact origin
    · exact ⟨origin.1, origin.2, origin.3, origin.4⟩

theorem FromRequest.prepare (origin : FromRequest req view) (route : Route β) :
    FromRequest req (view.prepare overrideError route).1 := by
  cases route with
  | passThrough | form => exact origin
  | converted _ body => exact origin.override body
  | viaResponses chat _ _ => exact origin.override chat

theorem FromRequest.leaves (origin : FromRequest req view) (attempt : Attempt β) :
    FromRequest req (attempt.leaves overrideError view) := by
  have started : FromRequest req (attempt.started view) := ⟨origin.1, origin.2, origin.3, origin.4⟩
  unfold Attempt.leaves
  split
  · exact started
  · exact started.prepare _

theorem override_runtimeHeaders (fresh : view.runtimeHeaders = none) (body : β) :
    (view.override overrideError body).1.runtimeHeaders = none ↔
      ¬(view.paramOverride.isEmpty = false ∧ ∃ res, applyParamOverride body view.context view.paramOverride =
        .ok res) := by
  unfold View.override
  cases view.paramOverride with
  | empty => simp [fresh, ParamOverride.isEmpty]
  | legacy edit =>
    cases applied : applyParamOverride body view.context (.legacy edit) <;>
      simp [applied, fresh, ParamOverride.isEmpty]
  | operations legacy operations =>
    cases applied : applyParamOverride body view.context (.operations legacy operations) <;>
      simp [applied, fresh, ParamOverride.isEmpty]

theorem begin_context (attempt : Attempt β) (info : RelayInfo β) :
    (attempt.begin info).buildParamOverrideContext = (attempt.started info.view).context := context_view _

theorem leaves_runtimeHeaders (fresh : info.view.runtimeHeaders = none) (attempt : Attempt β) :
    (attempt.leaves overrideError info.view).runtimeHeaders = none ↔ ¬Overrides info attempt := by
  have overrides (body : β) : ((attempt.started info.view).override overrideError body).1.runtimeHeaders =
      none ↔ ¬(attempt.channel.paramOverride.isEmpty = false ∧ ∃ res, applyParamOverride body
        (attempt.begin info).buildParamOverrideContext attempt.channel.paramOverride = .ok res) := by
    have started : (attempt.started info.view).runtimeHeaders = none := fresh
    rw [begin_context]
    exact override_runtimeHeaders started body
  unfold Attempt.leaves Overrides
  cases attempt.conversion with
  | error e => simpa [Attempt.started] using fresh
  | ok route =>
    cases route with
    | passThrough | form => simpa [Attempt.started, View.prepare, Route.overridden] using fresh
    | converted req body => simpa [View.prepare, Route.overridden] using overrides body
    | viaResponses chat rewritten req => simpa [View.prepare, Route.overridden] using overrides chat

theorem genRelayInfo_view (req : RelayRequest) : (genRelayInfo req : RelayInfo β).view =
    ⟨req.originModelName, req.requestURLPath, req.requestHeaders, req.isChannelTest, 0, none, none, none⟩ := by
  unfold genRelayInfo RelayInfo.initRequestConversionChain
  split <;> rfl

def probe (headers : HeaderMap) : Attempt β where
  retryIndex := 0
  channel := ⟨0, "", headers, .empty⟩
  groupRatio := 1
  conversionRatios := []
  conversion := .ok .passThrough
  request := .ok ()
  claudeResponse := false
  responseRatios := []
  response := .ok none

theorem probe_headers (headers : HeaderMap) (view : View β) : (probe headers).headers overrideError view =
      some (sanitizeHeaderOverrideMap (view.runtimeHeaders.getD headers)) := rfl

theorem isolated_iff (origin : FromRequest req info.view) :
    Isolated overrideError req info ↔ info.view.runtimeHeaders = none := by
  have untriedView : (untried req info).view = ⟨req.originModelName, req.requestURLPath,
      req.requestHeaders, req.isChannelTest, 0, info.lastError, none, none⟩ := by
    have first := @genRelayInfo_view β req
    exact congrArg (fun view : View β => { view with lastError := info.lastError }) first
  constructor
  · intro isolated
    cases left : info.view.runtimeHeaders with
    | none => rfl
    | some headers =>
      have sent (own : HeaderMap) : sanitizeHeaderOverrideMap headers = sanitizeHeaderOverrideMap own := by
        have same := isolated (probe own)
        rw [(run_seen ..).1, (run_seen ..).1, probe_headers, probe_headers, left, untriedView] at same
        exact Option.some.inj same
      have ne : sanitizeHeaderOverrideMap (.empty : HeaderMap) ≠
          sanitizeHeaderOverrideMap (Table.empty.save ("x", "1")) := by decide +kernel
      exact absurd ((sent .empty).symm.trans (sent _)) ne
  · intro fresh next
    have started : next.started info.view = next.started (untried req info).view := by
      rw [untriedView, ← origin.originModelName, ← origin.requestURLPath, ← origin.requestHeaders,
        ← origin.isChannelTest, ← fresh]
      rfl
    rw [(run_seen ..).1, (run_seen ..).1]
    unfold Attempt.headers
    rw [started]

theorem tryChannel_view {attempt : Attempt β} {next : RelayInfo β}
    (failed : tryChannel overrideError info attempt = some next) :
    ∃ e, next.view = { attempt.leaves overrideError info.view with lastError := some e } := by
  unfold tryChannel at failed
  split at failed
  next e _ =>
    cases failed
    refine ⟨e, ?_⟩
    rw [← (run_seen ..).2]
    rfl
  · cases failed

end Isolation

def plainRequest : RelayRequest where
  originModelName := "gpt-4o"
  requestURLPath := "/v1/chat/completions"
  requestHeaders := .empty
  isChannelTest := false
  relayFormat := some .openAI
  estimatePromptTokens := 0
  priceData := ⟨0, 1, 1, 1, 1, 1, 1, 1, .empty, false, 1⟩
  responsesUsageInfo := none

def failingAttempt : Attempt Unit where
  retryIndex := 0
  channel := ⟨1, "gpt-4o", Table.empty.save ("Authorization", "Bearer first"), .legacy fun body => .ok body⟩
  groupRatio := 1
  conversionRatios := []
  conversion := .ok (.converted .generalOpenAI ())
  request := .error ⟨500, "upstream error", "bad_response", "openai_error", false⟩
  claudeResponse := false
  responseRatios := []
  response := .ok none

end Tokengine.Relay
