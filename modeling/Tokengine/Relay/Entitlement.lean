import Tokengine.Relay.Distribute

/-! The groups in which a request may be served. A body that names a group is believed on the paths of videos, and on the
playgrounds it is compared with the group of the context and not with that of the user. -/

namespace Tokengine.Relay.Distribute
open Text Channels List Option

section Results

variable {ε α β : Type} {first : Except ε α}

theorem ok_of_bind {next : α → Except ε β} {res : β} (ended : (first >>= next) = .ok res) :
    ∃ val, first = .ok val ∧ next val = .ok res := by
  cases first with
  | error e => cases ended
  | ok val => exact ⟨val, rfl, ended⟩

theorem ok_of_map {change : α → β} {res : β} (ended : first.map change = .ok res) :
    ∃ val, first = .ok val ∧ change val = res := by
  cases first with
  | error e => cases ended
  | ok val => exact ⟨val, rfl, Except.ok.inj ended⟩

theorem ok_of_mapError {ε' : Type} {change : ε → ε'} {res : α} (ended : first.mapError change = .ok res) :
    first = .ok res := by
  cases first with
  | error e => cases ended
  | ok val => exact congrArg _ (Except.ok.inj ended)

end Results

def establishedGroup (userGroup : String) (token : Token) : String := if token.group ≠ "" then token.group else userGroup

def Entitled (cfg : GroupSettings) (userGroup : String) (token : Token) (group : String) : Prop :=
  group = establishedGroup userGroup token ∨ groupInUserUsableGroups cfg userGroup group = true

instance (cfg : GroupSettings) (userGroup : String) (token : Token) (group : String) :
    Decidable (Entitled cfg userGroup token group) :=
  @instDecidableOr _ _ (instDecidableEqString _ _) (instDecidableEqBool _ _)

def groupsUsed (selection : Selection) (ctx : Context) : List String := selection.selectGroup.toList ++ [pricingGroup ctx]

def namesChannel (parts : List String) : Bool := 1 < parts.length

def bodyGroup (request : Request) : String := (request.body.toOption.map ModelRequest.group).getD ""

def submitsVideo (request : Request) : Bool := isVideoGeneration request.path && request.method = "POST"

def asksPlayground (request : Request) : Bool :=
  isPlayground request.path || hasPrefix request.path "/pg/video/generations"

def requestedGroup (request : Request) (parts : List String) : Option String :=
  if bodyGroup request ≠ "" ∧ (submitsVideo request ∨ asksPlayground request ∧ namesChannel parts = false) then
    some (bodyGroup request)
  else none

/-! ### The group of the context -/

structure Authenticated (ownGroup : String) (token : Token) (parts : List String) (ctx : Context) : Prop where
  userGroup : ctx.userGroup = ownGroup
  usingGroup : ctx.usingGroup = establishedGroup ownGroup token
  autoGroup : ctx.autoGroup = none
  specific : ctx.specificChannelId.isSome = namesChannel parts

structure Regrouped (ctx after : Context) (group : String) : Prop where
  userGroup : after.userGroup = ctx.userGroup
  usingGroup : after.usingGroup = group
  autoGroup : after.autoGroup = ctx.autoGroup
  specific : after.specificChannelId = ctx.specificChannelId

variable {parts : List String} {isAdmin : Int → Bool} {userGroup : String} {token : Token} {cfg : GroupSettings}

theorem setupContextForToken_spec {ctx after : Context}
    (unnamed : ctx.specificChannelId = none) (ended : setupContextForToken isAdmin ctx token parts = .ok after) :
    after.userGroup = ctx.userGroup ∧ after.usingGroup = ctx.usingGroup ∧ after.autoGroup = ctx.autoGroup ∧
      after.specificChannelId.isSome = namesChannel parts := by
  unfold setupContextForToken at ended
  cases parts with
  | nil =>
    cases ended
    simp [unnamed, namesChannel]
  | cons first rest =>
    cases rest with
    | nil =>
      cases ended
      simp [unnamed, namesChannel]
    | cons channelId rest =>
      simp only at ended
      split at ended
      · cases ended
        simp [namesChannel]
      · cases ended

theorem tokenAuth_spec {ctx : Context} (ended : tokenAuth cfg isAdmin userGroup token parts = .ok ctx) :
    Authenticated userGroup token parts ctx := by
  unfold tokenAuth at ended
  split at ended
  · cases ended
  split at ended
  · cases ended
  obtain ⟨user, used, auto, specific⟩ := setupContextForToken_spec rfl ended
  exact ⟨user, used, auto, specific⟩

theorem regrouped_refl (ctx : Context) : Regrouped ctx ctx ctx.usingGroup := ⟨rfl, rfl, rfl, rfl⟩

variable {gateway : Gateway} {request : Request} {ctx : Context} {reading : Reading}

def groupRead (request : Request) (ctx : Context) : String :=
  if bodyGroup request ≠ "" ∧ submitsVideo request then bodyGroup request else ctx.usingGroup

theorem groupRead_of_not_video (other : isVideoGeneration request.path = false) : groupRead request ctx = ctx.usingGroup := by
  simp [groupRead, submitsVideo, other]

theorem bodyGroup_of_ok {req : ModelRequest} (decoded : getModelFromRequest gateway request = .ok req) :
    bodyGroup request = req.group := by
  simp [bodyGroup, ok_of_mapError decoded, Except.toOption]

theorem readMidjourney_ctx {midjourney : Midjourney} (ended : readMidjourney gateway ctx midjourney = .ok reading) :
    reading.ctx = ctx := by
  unfold readMidjourney at ended
  split at ended
  · cases ended; rfl
  · cases ended
  · cases ended
  split at ended
  · cases ended; rfl
  split at ended
  · cases ended; rfl
  · cases ended

theorem readVideo_spec (video : isVideoGeneration request.path = true)
    (ended : readVideo gateway request ctx = .ok reading) : Regrouped ctx reading.ctx (groupRead request ctx) := by
  unfold readVideo at ended
  split at ended
  next post =>
    obtain ⟨req, decoded, rfl⟩ := ok_of_map ended
    have named := bodyGroup_of_ok decoded
    by_cases blank : req.group = ""
    · simpa only [groupRead, named, blank, ne_eq, not_true_eq_false, false_and, if_false, if_true]
        using regrouped_refl ctx
    have taken : groupRead request ctx = req.group := by
      simp [groupRead, named, blank, submitsVideo, video, post]
    rw [taken]
    simp only [blank, if_false]
    exact ⟨rfl, rfl, rfl, rfl⟩
  next other =>
  cases ended
  have kept : groupRead request ctx = ctx.usingGroup := by simp [groupRead, submitsVideo, other]
  rw [kept]
  exact regrouped_refl ctx

theorem readPath_spec (ended : readPath gateway request ctx = .ok reading) :
    Regrouped ctx reading.ctx (groupRead request ctx) := by
  -- on every other branch the context is handed on as it is
  have plain : isVideoGeneration request.path = false → reading.ctx = ctx →
      Regrouped ctx reading.ctx (groupRead request ctx) := by
    intro other same
    rw [groupRead_of_not_video other, same]
    exact regrouped_refl ctx
  unfold readPath at ended
  simp only at ended
  split at ended
  next mj => exact plain (by simp [isVideoGeneration, mj]) (readMidjourney_ctx ended)
  next noMj =>
  split at ended
  next suno => exact plain (by simp [isVideoGeneration, suno]) (by cases ended; rfl)
  next noSuno =>
  split at ended
  next remix =>
    have videos : contains request.path "/v1/videos" = true := by
      simp only [Bool.and_eq_true] at remix
      exact contains_of_append "/v1/videos" "/" remix.1
    exact plain (by simp [isVideoGeneration, videos]) (by cases ended; rfl)
  split at ended
  next videos =>
    refine plain (by simp [isVideoGeneration, videos]) ?_
    split at ended
    · obtain ⟨req, _, rfl⟩ := ok_of_map ended
      rfl
    · cases ended; rfl
  next noVideos =>
  split at ended
  next generations =>
    exact readVideo_spec (by simp [isVideoGeneration, noMj, noSuno, noVideos, generations]) ended
  next noGenerations =>
  have other : isVideoGeneration request.path = false := by simp [isVideoGeneration, noGenerations]
  split at ended
  · exact plain other (by cases ended; rfl)
  split at ended
  · obtain ⟨req, _, rfl⟩ := ok_of_map ended
    exact plain other rfl
  · exact plain other (by cases ended; rfl)

variable {group : String}

theorem readPlayground_spec {after : Reading} (spec : Regrouped ctx reading.ctx group)
    (ended : readPlayground gateway request reading = .ok after) : Regrouped ctx after.ctx group := by
  unfold readPlayground at ended
  split at ended
  · obtain ⟨req, _, rfl⟩ := ok_of_map ended
    exact ⟨spec.userGroup, spec.usingGroup, spec.autoGroup, spec.specific⟩
  · cases ended
    exact spec

theorem getModelRequest_spec (ended : getModelRequest gateway request ctx = .ok reading) :
    Regrouped ctx reading.ctx (groupRead request ctx) := by
  obtain ⟨first, read, ended⟩ := ok_of_bind ended
  obtain ⟨model, _, ended⟩ := ok_of_bind ended
  obtain ⟨second, asked, ended⟩ := ok_of_bind ended
  have path : Regrouped ctx first.ctx (groupRead request ctx) := readPath_spec read
  have spec : Regrouped ctx second.ctx (groupRead request ctx) := by
    apply readPlayground_spec _ asked
    exact path
  cases ended
  exact spec

/-! ### The choice of a channel -/

def groupChosen (request : Request) (ctx : Context) : String :=
  if bodyGroup request ≠ "" ∧ asksPlayground request then bodyGroup request else ctx.usingGroup

theorem chooseGroup_spec {after : Context} (ended : chooseGroup cfg gateway request ctx = .ok after) :
    Regrouped ctx after (groupChosen request ctx) := by
  unfold chooseGroup at ended
  split at ended
  next asks =>
    obtain ⟨group, read, ended⟩ := ok_of_bind ended
    have named : bodyGroup request = group := by
      unfold playgroundGroup at read
      split at read
      next decoded =>
        cases read
        simp [bodyGroup, decoded, Except.toOption]
      · cases read
    split at ended
    next blank =>
      cases ended
      simpa [groupChosen, named, blank] using regrouped_refl ctx
    next given =>
    split at ended
    · cases ended
    cases ended
    have chosen : groupChosen request ctx = group := by simp [groupChosen, named, given, asksPlayground, asks]
    rw [chosen]
    exact ⟨rfl, rfl, rfl, rfl⟩
  next other =>
  cases ended
  have kept : groupChosen request ctx = ctx.usingGroup := by simp [groupChosen, asksPlayground, other]
  rw [kept]
  exact regrouped_refl ctx

def ServedIn (cfg : GroupSettings) (ctx : Context) (selection : Selection) (after : Context) : Prop :=
  ∃ group, selection.selectGroup = some group ∧ pricingGroup after = group ∧
    if ctx.usingGroup = "auto" then group ∈ getUserAutoGroup cfg ctx.userGroup else group = ctx.usingGroup

variable {model : String} {ch : Channel}

theorem preferredChannel_spec {preferred : Option Selection} {after : Context} (unset : ctx.autoGroup = none)
    (ended : preferredChannel cfg gateway model ctx = .ok (preferred, after)) :
    (preferred = none → after = ctx) ∧ ∀ selection, preferred = some selection → ServedIn cfg ctx selection after := by
  have skipped : (none, ctx) = (preferred, after) → (preferred = none → after = ctx) ∧
      ∀ selection, preferred = some selection → ServedIn cfg ctx selection after := by
    intro same
    cases same
    exact ⟨fun _ => rfl, fun _ => (nomatch ·)⟩
  unfold preferredChannel at ended
  split at ended
  · exact skipped (Except.ok.inj ended)
  · split at ended
    · split at ended
      · cases ended
      · exact skipped (Except.ok.inj ended)
    · split at ended
      next auto =>
        split at ended
        next group found =>
          cases ended
          refine ⟨(nomatch ·), fun selection same => ?_⟩
          cases same
          exact ⟨group, rfl, rfl, by rw [if_pos auto]; exact mem_of_find?_eq_some found⟩
        · exact skipped (Except.ok.inj ended)
      next manual =>
      split at ended
      · cases ended
        refine ⟨(nomatch ·), fun selection same => ?_⟩
        cases same
        exact ⟨ctx.usingGroup, rfl, by simp [pricingGroup, unset], by rw [if_neg manual]⟩
      · exact skipped (Except.ok.inj ended)

variable {param : RetryParam} {picked : Picked} {available : Available} {retryTimes : Nat}

theorem selectAuto_spec {retry i : Nat} {groups : List String}
    (found : (selectAuto retryTimes available i retry groups ctx param).1 = some picked) : picked.selectGroup ∈ groups ∧
      (selectAuto retryTimes available i retry groups ctx param).2.1.autoGroup = some picked.selectGroup := by
  induction groups generalizing retry i ctx param with
  | nil => cases found
  | cons autoGroup rest tail =>
    unfold selectAuto at found ⊢
    split at found
    · obtain ⟨mem, set⟩ := tail found
      exact ⟨mem_cons_of_mem _ mem, set⟩
    · split_ifs at found ⊢ <;> cases found <;> exact ⟨mem_cons_self, rfl⟩

theorem cacheGetRandomSatisfiedChannel_spec {after : Context} {next : RetryParam} (unset : ctx.autoGroup = none)
    (own : param.tokenGroup = ctx.usingGroup)
    (found : cacheGetRandomSatisfiedChannel cfg retryTimes available ctx param = (.ok (some picked), after, next)) :
    ServedIn cfg ctx ⟨picked.channel, some picked.selectGroup⟩ after := by
  unfold cacheGetRandomSatisfiedChannel at found
  split at found
  next auto =>
    split at found
    · cases found
    obtain ⟨chosen, rfl, -⟩ := Prod.mk.inj found |>.imp_right Prod.mk.inj
    obtain ⟨mem, set⟩ := selectAuto_spec (Except.ok.inj chosen)
    refine ⟨picked.selectGroup, rfl, by simp [pricingGroup, set], ?_⟩
    rw [if_pos (own ▸ auto)]
    exact mem_of_mem_drop mem
  next manual =>
  obtain ⟨chosen, rfl, -⟩ := Prod.mk.inj found |>.imp_right Prod.mk.inj
  obtain ⟨_, _, same⟩ := ok_of_map chosen
  obtain ⟨_, _, rfl⟩ := map_eq_some_iff.mp same
  exact ⟨ctx.usingGroup, congrArg some own, by simp [pricingGroup, unset], by rw [if_neg (own ▸ manual)]⟩

variable {selection : Selection}

theorem selectChannel_spec {after : Context} (unset : ctx.autoGroup = none)
    (ended : selectChannel cfg gateway model ctx = .ok (selection, after)) : ServedIn cfg ctx selection after := by
  obtain ⟨⟨preferred, middle⟩, asked, ended⟩ := ok_of_bind ended
  obtain ⟨skipped, served⟩ := preferredChannel_spec unset asked
  cases preferred with
  | some chosen =>
    cases ended
    exact served _ rfl
  | none =>
    cases skipped rfl
    simp only at ended
    split at ended
    · cases ended
    · cases ended
    next found =>
      cases ended
      exact cacheGetRandomSatisfiedChannel_spec unset rfl found

theorem getUserAutoGroup_usable (mem : group ∈ getUserAutoGroup cfg userGroup) :
    groupInUserUsableGroups cfg userGroup group = true := (mem_filter.mp mem).2

/-! ### Entitlement -/

theorem requestedGroup_of_selection (unnamed : namesChannel parts = false) {middle : Context}
    (read : middle.usingGroup = groupRead request ctx) :
    groupChosen request middle = (requestedGroup request parts).getD ctx.usingGroup := by
  unfold groupChosen requestedGroup
  rw [read, groupRead]
  by_cases named : bodyGroup request = ""
  · simp [named]
  · cases submitsVideo request <;> cases asksPlayground request <;> simp [named, unnamed]

theorem requestedGroup_of_specific (named : namesChannel parts = true) :
    groupRead request ctx = (requestedGroup request parts).getD ctx.usingGroup := by
  unfold groupRead requestedGroup
  by_cases blank : bodyGroup request = ""
  · simp [blank]
  · cases submitsVideo request <;> simp [blank, named]

inductive Chosen (cfg : GroupSettings) (ctx : Context) (request : Request) (parts : List String)
    (selection : Selection) (after : Context) : Prop
  | specific (named : namesChannel parts = true) (free : selection.selectGroup = none)
      (priced : pricingGroup after = (requestedGroup request parts).getD ctx.usingGroup)
  | selected (unnamed : namesChannel parts = false) (middle : Context) (same : middle.userGroup = ctx.userGroup)
      (group : middle.usingGroup = (requestedGroup request parts).getD ctx.usingGroup)
      (served : ServedIn cfg middle selection after)

theorem choose_spec {after : Context} (specific : ctx.specificChannelId.isSome = namesChannel parts)
    (unset : ctx.autoGroup = none) (read : Regrouped ctx reading.ctx (groupRead request ctx))
    (ended : choose cfg gateway request reading = .ok (some selection, after)) :
    Chosen cfg ctx request parts selection after := by
  unfold choose at ended
  split at ended
  next named =>
    obtain ⟨ch, _, same⟩ := ok_of_map ended
    obtain ⟨chosen, rfl⟩ := Prod.mk.inj same
    cases chosen
    have key : namesChannel parts = true := by rw [← specific, ← read.specific, named]; rfl
    refine .specific key rfl ?_
    rw [← requestedGroup_of_specific key, pricingGroup, read.autoGroup, unset, read.usingGroup, getD_none]
  next unnamed =>
  have key : namesChannel parts = false := by rw [← specific, ← read.specific, unnamed]; rfl
  obtain ⟨_, _, ended⟩ := ok_of_bind ended
  split at ended
  · cases ended
  split at ended
  · cases ended
  obtain ⟨middle, asked, ended⟩ := ok_of_bind ended
  obtain ⟨⟨chosen, last⟩, selected, same⟩ := ok_of_map ended
  obtain ⟨sameSelection, rfl⟩ := Prod.mk.inj same
  cases sameSelection
  have wish := chooseGroup_spec asked
  refine .selected key middle (wish.userGroup.trans read.userGroup) ?_ (selectChannel_spec ?_ selected)
  · rw [wish.usingGroup, requestedGroup_of_selection key read.usingGroup]
  · rw [wish.autoGroup, read.autoGroup, unset]

theorem distribute_spec {after : Context} (specific : ctx.specificChannelId.isSome = namesChannel parts)
    (unset : ctx.autoGroup = none) (ended : distribute cfg gateway request ctx = .ok (some selection, after)) :
    Chosen cfg ctx request parts selection after := by
  obtain ⟨reading, read, ended⟩ := ok_of_bind ended
  obtain ⟨_, _, ended⟩ := ok_of_bind ended
  obtain ⟨chosen, choice, ended⟩ := ok_of_bind ended
  have same : chosen = (some selection, after) := by
    split at ended
    · cases ended
    · exact Except.ok.inj ended
  rw [same] at choice
  exact choose_spec specific unset (getModelRequest_spec (ok_of_mapError read)) choice

def AsksWithin (cfg : GroupSettings) (userGroup : String) (token : Token) (request : Request) (parts : List String) :
    Prop :=
  ∀ group, requestedGroup request parts = some group →
    Entitled cfg userGroup token group ∨ group = "auto" ∧ namesChannel parts = false

theorem entitled_established (cfg : GroupSettings) (userGroup : String) (token : Token) :
    Entitled cfg userGroup token (establishedGroup userGroup token) := .inl rfl

/-- A request that is served on a channel uses groups its user is entitled to exactly when its body asks for no other. -/
theorem served_within_entitlement_iff {gateway : Gateway} {parts : List String} {request : Request} {ctx after : Context}
    {selection : Selection} (authenticated : tokenAuth cfg isAdmin userGroup token parts = .ok ctx)
    (served : distribute cfg gateway request ctx = .ok (some selection, after)) :
    (∀ group ∈ groupsUsed selection after, Entitled cfg userGroup token group) ↔
      AsksWithin cfg userGroup token request parts := by
  have auth := tokenAuth_spec authenticated
  cases distribute_spec auth.specific auth.autoGroup served with
  | specific named free priced =>
    have used : groupsUsed selection after = [(requestedGroup request parts).getD (establishedGroup userGroup token)] := by
      simp [groupsUsed, free, priced, auth.usingGroup]
    simp only [used, mem_singleton, forall_eq, AsksWithin, named, Bool.true_eq_false, and_false, or_false]
    cases requestedGroup request parts with
    | none => simp [entitled_established]
    | some group => simp
  | selected unnamed middle same held served =>
    obtain ⟨group, chosen, priced, within⟩ := served
    rw [same, auth.userGroup, held, auth.usingGroup] at within
    have used : (∀ name ∈ groupsUsed selection after, Entitled cfg userGroup token name) ↔
        Entitled cfg userGroup token group := by
      simp [groupsUsed, chosen, priced]
    rw [used, AsksWithin]
    -- an automatic group is always usable, any other group is the one that was asked for or established
    cases requested : requestedGroup request parts with
    | none =>
      simp only [requested, getD_none, reduceCtorEq, IsEmpty.forall_iff, implies_true, iff_true] at within ⊢
      split at within
      · exact .inr (getUserAutoGroup_usable within)
      · exact .inl within
    | some wish =>
      simp only [requested, getD_some, Option.some.injEq, forall_eq', unnamed, and_true] at within ⊢
      split at within
      next auto => exact ⟨fun _ => .inr auto, fun _ => .inr (getUserAutoGroup_usable within)⟩
      next manual => rw [within]; simp [manual]

/-- Every user may use the group `default`, and `vip` is kept for others. -/
def exclusiveVip : GroupSettings where
  userUsableGroups := Table.empty.save ("default", "默认分组")
  groupSpecialUsableGroup := .empty
  groupRatio := ["default", "vip"]
  autoGroups := []

def openGateway : Gateway where
  translate key _ := key
  isModelBlacklisted _ := false
  isModelSpecifiedForUser _ _ := false
  getChannelById _ := none
  getPreferredChannelByAffinity _ _ := none
  cacheGetChannel _ := none
  shouldSkipRetryAfterChannelAffinityFailure := false
  isChannelEnabledForGroupModel _ _ _ := true
  getRandomSatisfiedChannel group model _ := .ok (some { id := 1, status := 1, group := group, models := model })
  retryTimes := 0
  setupContextForSelectedChannel _ _ := none

def plainToken : Token := ⟨7, "", false, [], false⟩

def videoRequest (group : String) : Request where
  path := "/v1/video/generations"
  method := "POST"
  contentType := "application/json"
  body := .ok ⟨"sora-2", group⟩
  midjourney := .fetch
  suno := none
  queryModel := ""
  paramModel := ""

/-- The result of the two middlewares on a video request of a user of the group `default`. -/
def videoOutcome (group : String) : Except Abort (Option Selection × Context) :=
  tokenAuth exclusiveVip (fun _ => false) "default" plainToken ["key"] >>=
    distribute exclusiveVip openGateway (videoRequest group)

def plainContext : Context where
  id := 7
  userGroup := "default"
  usingGroup := "default"
  tokenGroup := ""
  tokenModelLimit := none
  tokenCrossGroupRetry := false
  specificChannelId := none

def defaultSelection : Selection := ⟨{ id := 1, status := 1, group := "default", models := "sora-2" }, some "default"⟩

theorem served_within_entitlement_default :
    (∀ group ∈ groupsUsed defaultSelection plainContext, Entitled exclusiveVip "default" plainToken group) ↔
      AsksWithin exclusiveVip "default" plainToken (videoRequest "") ["key"] := by
  have authenticated : tokenAuth exclusiveVip (fun _ => false) "default" plainToken ["key"] = .ok plainContext := rfl
  have served : distribute exclusiveVip openGateway (videoRequest "") plainContext =
      .ok (some defaultSelection, plainContext) := rfl
  exact served_within_entitlement_iff authenticated served

/-- A body that names the group `vip` is served and priced there. -/
theorem unusable_group_served : ∃ selection after, videoOutcome "vip" = .ok (some selection, after) ∧
      selection.selectGroup = some "vip" ∧ pricingGroup after = "vip" ∧ ¬Entitled exclusiveVip "default" plainToken "vip" :=
  ⟨_, _, rfl, rfl, rfl, by decide +kernel⟩

end Tokengine.Relay.Distribute
