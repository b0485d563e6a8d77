import Tokengine.Plans.Groups

/-! The functions on the subscriptions when each runs alone: what the store is when they have ended. -/

namespace Tokengine.Plans.Alone
open Transactions Interleaving Model Database Groups Text

variable {α : Type} {acct : Local schema} {handle : Handle} {db : Store} {userId : Int}
  {post : Local schema → Except String α → Prop} {write : Write}

theorem does_find {req : Query} {rest : Result req → Action schema α}
    (continues : Does acct (rest (answer req (acct.view handle))) post) :
    Does acct (find handle req >>= rest) post := does_query continues

theorem does_attempt_find {req : Query} {rest : Except String (Result req) → Action schema α}
    (continues : Does acct (rest (.ok (answer req (acct.view handle)))) post) :
    Does acct (attempt (find handle req) >>= rest) post := does_attempt_query continues

theorem does_run {post : Local schema → Except String Unit → Prop}
    (holds : post (acct.track (.write handle write)) (.ok ())) : Does acct (run handle write) post := does_execute holds

theorem does_run_then {rest : Unit → Action schema α}
    (continues : Does (acct.track (.write handle write)) (rest ()) post) :
    Does acct (run handle write >>= rest) post := by
  refine ⟨trivial, fun answer relied => ?_⟩
  cases relied
  exact continues.meets

theorem does_attempt_run {rest : Except String Unit → Action schema α}
    (continues : Does (acct.track (.write handle write)) (rest (.ok ())) post) :
    Does acct (attempt (run handle write) >>= rest) post := by
  refine ⟨trivial, fun answer relied => ?_⟩
  cases relied
  exact continues.meets

variable {id : Int}

theorem does_getPlan : Does acct (getSubscriptionPlanByIdTx handle id) fun after res =>
      after = acct ∧ ∀ plan, res = .ok plan → (acct.view handle).plans.lookup id = some plan := by
  refine obeys_guard ⟨rfl, fun _ same => by cases same⟩ fun _ => does_find ?_
  have seen : answer (.plan id) (acct.view handle) = (acct.view handle).plans.lookup id := rfl
  rw [seen]
  cases (acct.view handle).plans.lookup id with
  | none => exact obeys_throw ⟨rfl, fun _ same => by cases same⟩
  | some plan =>
    refine obeys_pure ⟨rfl, fun _ same => ?_⟩
    cases same
    rfl

/-- What a program finds out without a write. -/
theorem does_known {β : Type} {body : Action schema β} {known : β → Prop} {rest : β → Action schema α}
    (looked : Does acct body fun after res => after = acct ∧ ∀ val, res = .ok val → known val)
    (fails : ∀ e, post acct (.error e)) (continues : ∀ val, known val → Does acct (rest val) post) :
    Does acct (body >>= rest) post := by
  refine obeys_bind looked (fun after val reached => ?_) fun after e reached => ?_
  · rw [reached.1]
    exact continues val (reached.2 val rfl)
  · rw [reached.1]
    exact fails e

theorem does_plan {rest : Plan → Action schema α} (fails : ∀ e, post acct (.error e))
    (continues : ∀ plan, (acct.view handle).plans.lookup id = some plan → Does acct (rest plan) post) :
    Does acct (getSubscriptionPlanByIdTx handle id >>= rest) post := does_known does_getPlan fails continues

theorem does_findSubscription {rest : Subscription → Action schema α} (fails : ∀ e, post acct (.error e))
    (continues : ∀ sub, sub.id = id → acct.settled.subs.lookup sub.id = some sub → Does acct (rest sub) post) :
    Does acct (findSubscription id >>= rest) post := by
  have looked : Does acct (findSubscription id) fun after res =>
      after = acct ∧ ∀ sub, res = .ok sub → acct.settled.subs.lookup id = some sub := by
    refine does_find ?_
    have seen : answer (.sub id) (acct.view .own) = acct.settled.subs.lookup id := rfl
    rw [seen]
    cases acct.settled.subs.lookup id with
    | none => exact obeys_throw ⟨rfl, fun _ same => by cases same⟩
    | some sub =>
      refine obeys_pure ⟨rfl, fun _ same => ?_⟩
      cases same
      rfl
  refine does_known looked fails fun sub found => ?_
  have mine : sub.id = id := (Table.lookup_some found).2
  exact continues sub mine (mine.symm ▸ found)

theorem does_userGroup {rest : String → Action schema α} (fails : ∀ e, post acct (.error e))
    (continues : Does acct (rest (userGroup userId (acct.view handle))) post) :
    Does acct (getUserGroupByIdTx handle userId >>= rest) post := by
  unfold getUserGroupByIdTx
  split
  · exact ⟨fails _⟩
  · exact does_find continues

section Functions

variable {clock : Clock} {plan : Plan} {source : Source} {tradeNo : String}
  {post : Local schema → Except String Unit → Prop}

theorem does_checkPurchaseLimit (holds : ∀ res, post acct res) :
    Does acct (checkPurchaseLimit handle userId plan) post := by
  refine obeys_ite (fun _ => does_find ?_) fun _ => obeys_pure (holds _)
  exact obeys_guard (holds _) fun _ => obeys_pure (holds _)

structure Created (handle : Handle) (db after : Store) (acct : Local schema) : Prop where
  settled : acct.settled = after
  own : handle = .own → acct.db = db
  global : handle = .global → acct.pending = []

theorem does_upgradeUserGroup {upgradeGroup : String} {post : Local schema → Except String String → Prop}
    (fails : ∀ e, post ⟨db, []⟩ (.error e))
    (done : ∀ acct, Created handle db (regroup userId (upgradeTo userId upgradeGroup db) db) acct →
      post acct (.ok (remembered userId upgradeGroup db))) :
    Does ⟨db, []⟩ (upgradeUserGroup handle userId upgradeGroup) post := by
  have seen : ∀ handle, Local.view (⟨db, []⟩ : Local schema) handle = db := by
    intro handle
    cases handle <;> rfl
  unfold upgradeTo remembered at done
  refine obeys_ite (fun none => ?_) fun names => does_userGroup fails ?_
  · rw [if_pos (Or.inl none), if_pos (Or.inl none)] at done
    exact obeys_pure (done ⟨db, []⟩ ⟨rfl, fun _ => rfl, fun _ => rfl⟩)
  rw [seen]
  refine obeys_ite (fun same => ?_) fun ne => does_run_then (obeys_pure ?_)
  · rw [if_pos (Or.inr same), if_pos (Or.inr same)] at done
    exact obeys_pure (done ⟨db, []⟩ ⟨rfl, fun _ => rfl, fun _ => rfl⟩)
  rw [if_neg (not_or.mpr ⟨names, ne⟩), if_neg (not_or.mpr ⟨names, ne⟩)] at done
  refine done _ ?_
  cases handle with
  | own => exact ⟨rfl, fun _ => rfl, nofun⟩
  | global => exact ⟨rfl, nofun, fun _ => rfl⟩

theorem does_create (fails : ∀ e, post ⟨db, []⟩ (.error e))
    (done : ∀ endUnix acct, calcPlanEndTime clock plan = .ok endUnix →
      Created handle db (created clock userId tradeNo plan source endUnix db) acct → post acct (.ok ())) :
    Does ⟨db, []⟩ (createUserSubscriptionFromPlanTx handle clock userId tradeNo plan source) post := by
  refine obeys_guard (fails _) fun _ => obeys_guard (fails _) fun _ => ?_
  refine does_known (does_checkPurchaseLimit fun _ => ⟨rfl, fun _ _ => trivial⟩) fails fun _ _ => ?_
  refine obeys_computed fails fun endUnix ends => ?_
  have upgraded : Does ⟨db, []⟩ (upgradeUserGroup handle userId (trimSpace plan.upgradeGroup))
      (orFails (fun acct prev => prev = remembered userId (trimSpace plan.upgradeGroup) db ∧
          Created handle db (regroup userId (upgradeTo userId (trimSpace plan.upgradeGroup) db) db) acct)
        fun acct => acct = ⟨db, []⟩) :=
    does_upgradeUserGroup (fun _ => rfl) fun _ moved => ⟨rfl, moved⟩
  refine obeys_bind upgraded (fun acct prev reached => ?_) fun acct e same => ?_
  · obtain ⟨rfl, moved⟩ := reached
    refine does_run (done endUnix _ ends ?_)
    cases handle with
    | own =>
      refine ⟨?_, fun _ => moved.own rfl, nofun⟩
      rw [settled_write, moved.settled]
      rfl
    | global =>
      have nothing := moved.global rfl
      refine ⟨?_, nofun, fun _ => nothing⟩
      rw [created, ← moved.settled, Local.settled, Local.settled, nothing]
      exact congrArg (fun pending => @applyAll schema pending _) nothing
  · rw [(same : acct = ⟨db, []⟩)]
    exact fails e

theorem does_transaction_from {body : Action schema Unit} {holds : Store → Prop} (start : holds db)
    (inside : Does ⟨db, []⟩ body fun acct res => acct.db = db ∧ (res = .ok () → holds acct.settled)) :
    Does ⟨db, []⟩ (transaction body) fun acct _ => acct.pending = [] ∧ holds acct.db := by
  refine does_transaction (obeys_mono inside fun acct res reached => ?_)
  cases res with
  | error => exact ⟨rfl, reached.1.symm ▸ start⟩
  | ok => exact ⟨rfl, reached.2 rfl⟩

/-- What the functions that move a user back to a group have to establish. -/
def Regroups (userId : Int) (target : Option String) (acct : Local schema)
    (post : Local schema → Except String Unit → Prop) : Prop :=
  ∀ after, after.db = acct.db → after.settled = regroup userId target acct.settled → post after (.ok ())

theorem does_unless {skips : Prop} [Decidable skips] {target : Option String} {body : Action schema Unit}
    (done : Regroups userId (if skips then none else target) acct post)
    (continues : Regroups userId target acct post → Does acct body post) :
    Does acct (if skips then pure () else body) post := by
  refine obeys_ite (fun nothing => ?_) fun moves => ?_
  · rw [if_pos nothing] at done
    exact obeys_pure (done acct rfl rfl)
  · rw [if_neg moves] at done
    exact continues done

theorem does_downgrade {sub : Subscription} {now : Int} (fails : ∀ e, post acct (.error e))
    (done : Regroups sub.userId (downgraded sub now acct.settled) acct post) :
    Does acct (downgradeUserGroupForSubscriptionTx sub now) post := by
  refine does_unless done fun done => does_userGroup fails (does_unless done fun done => does_attempt_find ?_)
  have seen : acct.view .own = acct.settled := rfl
  rw [seen]
  cases other : answer (.activeUpgraded sub.userId now (some sub.id)) acct.settled with
  | some _ =>
    rw [if_pos (by rw [other]; rfl)] at done
    exact obeys_pure (done acct rfl rfl)
  | none =>
    rw [if_neg (by rw [other]; exact Bool.false_ne_true)] at done
    exact does_unless done fun done => does_run (done _ rfl (settled_write ..))

theorem does_downgradeAfterExpiry {last : Subscription} (fails : ∀ e, post acct (.error e))
    (done : Regroups userId (lapsedTo userId last acct.settled) acct post) :
    Does acct (downgradeAfterExpiry userId last) post :=
  does_unless done fun done => does_userGroup fails
    (does_unless done fun done => does_run (done _ rfl (settled_write ..)))

theorem does_expireUser {now : Int} : Does ⟨db, []⟩ (expireUser now userId) fun acct res =>
      acct.db = db ∧ (res = .ok () → acct.settled = expired now userId db) := by
  refine does_run_then ?_
  let view := apply (.expireDue userId now) db
  let acct : Local schema := ⟨db, [.expireDue userId now]⟩
  have stays : expiryGroup userId now view = none → acct.settled = expired now userId db := fun none => by
    rw [expired, none]
    rfl
  have seen : acct.view .own = view := rfl
  change Does acct _ _
  refine does_attempt_find ?_
  rw [seen]
  cases other : answer (.activeUpgraded userId now none) view with
  | some _ => exact obeys_pure ⟨rfl, fun _ => stays (if_pos (by rw [other]; rfl))⟩
  | none =>
    have lapsed : ¬(answer (.activeUpgraded userId now none) view).isSome := by
      rw [other]
      exact Bool.false_ne_true
    dsimp only
    refine does_attempt_find ?_
    rw [seen]
    cases found : answer (.lastExpired userId) view with
    | none => exact obeys_pure ⟨rfl, fun _ => stays (by rw [expiryGroup, if_neg lapsed, found])⟩
    | some last =>
      have lapses : expiryGroup userId now view = lapsedTo userId last view := by
        rw [expiryGroup, if_neg lapsed, found]
      refine does_downgradeAfterExpiry (fun _ => ⟨rfl, fun ok => by cases ok⟩) fun after kept moved =>
        ⟨kept, fun _ => ?_⟩
      rw [moved, expired, lapses]
      rfl

end Functions

end Tokengine.Plans.Alone
