import Tokengine.Model.Subscription

/-! What the subscription functions do to the tables. -/

namespace Tokengine.Model.Subscription
open Program Database ResetTime List Table Text

theorem txSave_confined (change : Db → Db) : Keeps Confined (txSave change) := txWrite_confined _ _

theorem getSubscriptionPlanByIdTx_confined (id : Int) : Keeps Confined (getSubscriptionPlanByIdTx id) :=
  keeps_guard (txRead_confined _)

theorem maybeReset_confined (sub : UserSubscription) (plan : SubscriptionPlan) (env : Env) :
    Keeps Confined (maybeResetUserSubscriptionWithPlanTx sub plan env) := by
  unfold maybeResetUserSubscriptionWithPlanTx
  split
  · exact keeps_throw _
  · exact keeps_pure _
  · exact keeps_bind (txSave_confined _) (fun _ => keeps_pure _)

theorem prepareQuota_confined (env : Env) (cand : UserSubscription) : Keeps Confined (prepareQuota env cand) :=
  keeps_bind (getSubscriptionPlanByIdTx_confined _) fun _ =>
    keeps_bind (maybeReset_confined _ _ _) fun _ => keeps_pure _

theorem prepareTokens_confined (env : Env) (cand : UserSubscription) : Keeps Confined (prepareTokens env cand) :=
  keeps_bind (getSubscriptionPlanByIdTx_confined _) fun _ => keeps_pure _

section Confinement

variable (meter : Meter)

theorem replay_confined (existing : SubscriptionPreConsumeRecord) : Keeps Confined (meter.replay existing) :=
  keeps_guard (keeps_bind (txRead_confined _) fun _ => keeps_pure _)

theorem consume_confined (requestId : String) (userId amount : Int) (sub : UserSubscription) :
    Keeps Confined (meter.consume requestId userId amount sub) := by
  refine keeps_bind (keeps_attempt (txWrite_confined _ _)) fun created => ?_
  cases created with
  | error e =>
    refine keeps_bind (keeps_attempt (txRead_confined _)) fun found => ?_
    cases found with
    | error _ => exact keeps_throw _
    | ok dup => exact keeps_guard (keeps_pure _)
  | ok _ => exact keeps_bind (txSave_confined _) fun _ => keeps_pure _

variable {prepare : UserSubscription → Program Tx String (Option UserSubscription)}
  (prepares : ∀ cand, Keeps Confined (prepare cand))
include prepares

variable (insufficient requestId : String)

theorem consumeFirst_confined (userId : Int) (modelName : String) (amount : Int) (cands : List UserSubscription) :
    Keeps Confined (meter.consumeFirst prepare insufficient requestId userId modelName amount cands) := by
  induction cands with
  | nil => exact keeps_throw _
  | cons cand rest tail =>
    refine keeps_bind (prepares cand) fun prepared => ?_
    cases prepared with
    | none => exact tail
    | some sub =>
      dsimp only
      split
      · exact consume_confined meter _ _ _ _
      · exact tail

theorem preConsumeTx_confined (userId : Int) (modelName : String) (amount now : Int) :
    Keeps Confined (meter.preConsumeTx prepare insufficient requestId userId modelName amount now) := by
  refine keeps_bind (txRead_confined _) fun existing => ?_
  cases existing with
  | some record => exact replay_confined meter record
  | none =>
    refine keeps_bind (keeps_attempt (txRead_confined _)) fun subs => ?_
    rcases subs with _ | (_ | ⟨first, rest⟩)
    · exact keeps_throw _
    · exact keeps_throw _
    · exact consumeFirst_confined meter prepares _ _ _ _ _ _

end Confinement

theorem postConsumeTx_confined (meter : Meter) (userSubscriptionId delta : Int) :
    Keeps Confined (meter.postConsumeTx userSubscriptionId delta) := by
  refine keeps_bind (txRead_confined _) fun sub => ?_
  split
  · exact keeps_throw _
  · exact txSave_confined _

/-! The candidates as the two loops see them. -/

def refresh (env : Env) (db : Db) (sub : UserSubscription) : UserSubscription :=
  match db.plans.lookup sub.planId with
  | none => sub
  | some plan =>
    match dueReset env.utcOffset env.now plan sub with
    | .ok (some later) => later
    | _ => sub

def hasTokensPlan (db : Db) (sub : UserSubscription) : Bool :=
  ((db.plans.lookup sub.planId).map fun plan => decide (plan.planType = .tokens)).getD false

theorem refresh_resetOf (env : Env) (db : Db) (sub : UserSubscription) : ResetOf sub (refresh env db sub) := by
  unfold refresh
  split
  · exact ResetOf.refl sub
  split
  next due => exact dueReset_resetOf due
  · exact ResetOf.refl sub

variable {env : Env} {db : Db}

theorem refresh_plans {db' : Db} (same : db'.plans = db.plans) : refresh env db' = refresh env db := by
  funext sub
  rw [refresh, refresh, same]

def Undue (env : Env) (db : Db) (sub : UserSubscription) : Prop :=
  isActive env.now sub.userId sub = true → refresh env db sub = sub

instance (env : Env) (db : Db) : DecidablePred (Undue env db) := fun _ => inferInstanceAs (Decidable (_ → _))

theorem refresh_again (env : Env) (db : Db) (sub : UserSubscription) :
    refresh env db (refresh env db sub) = refresh env db sub := by
  cases planned : db.plans.lookup sub.planId with
  | none =>
    have same : refresh env db sub = sub := by rw [refresh, planned]
    rw [same, same]
  | some plan =>
    rcases due : dueReset env.utcOffset env.now plan sub with _ | (_ | later)
    · have same : refresh env db sub = sub := by simp only [refresh, planned, due]
      rw [same, same]
    · have same : refresh env db sub = sub := by simp only [refresh, planned, due]
      rw [same, same]
    · have renewed : refresh env db sub = later := by simp only [refresh, planned, due]
      obtain ⟨used, last, next, rfl, _⟩ := dueReset_resetOf due
      rw [renewed]
      simp only [refresh, planned, dueReset_again due]

/-- A row is as it was, or it was active and has had the reset that was due. -/
def Renewed (env : Env) (db : Db) (old new : UserSubscription) : Prop :=
  new = old ∨ isActive env.now old.userId old = true ∧ new = refresh env db old

theorem Renewed.resetOf {old new : UserSubscription} (renewed : Renewed env db old new) : ResetOf old new := by
  rcases renewed with rfl | ⟨_, rfl⟩
  · exact ResetOf.refl _
  · exact refresh_resetOf env db old

theorem Renewed.trans {later : Db} {old mid new : UserSubscription} (plans : later.plans = db.plans)
    (start : Renewed env db old mid) (rest : Renewed env later mid new) : Renewed env db old new := by
  rcases rest with rfl | ⟨active, rfl⟩
  · exact start
  rw [refresh_plans plans]
  rcases start with rfl | ⟨wasActive, rfl⟩
  · exact Or.inr ⟨active, rfl⟩
  · exact Or.inr ⟨wasActive, refresh_again env db old⟩

theorem Renewed.refresh_eq {old new : UserSubscription} (renewed : Renewed env db old new) :
    refresh env db new = refresh env db old := by
  rcases renewed with rfl | ⟨_, rfl⟩
  · rfl
  · exact refresh_again env db old

/-- The tables agree but for active subscriptions that were reset because they were due. -/
structure Refreshed (env : Env) (db later : Db) : Prop where
  rest : later = { db with subs := later.subs }
  rows : ∀ id, Option.Rel (Renewed env db) (db.subs.lookup id) (later.subs.lookup id)

theorem Refreshed.refl (env : Env) (db : Db) : Refreshed env db db := by
  refine ⟨rfl, fun id => ?_⟩
  cases db.subs.lookup id with
  | none => exact Option.Rel.none
  | some sub => exact Option.Rel.some (Or.inl rfl)

theorem Refreshed.trans {first second third : Db} (start : Refreshed env first second)
    (rest : Refreshed env second third) : Refreshed env first third := by
  have plans : second.plans = first.plans := by rw [start.rest]
  refine ⟨?_, fun id => ?_⟩
  · rw [rest.rest, start.rest]
  · have before := start.rows id
    have after := rest.rows id
    generalize first.subs.lookup id = old at before
    generalize second.subs.lookup id = middle at before after
    generalize third.subs.lookup id = last at after
    cases before with
    | none =>
      cases after with
      | none => exact Option.Rel.none
    | some renewed =>
      cases after with
      | some again => exact Option.Rel.some (renewed.trans plans again)

variable {sub : UserSubscription}

theorem Refreshed.kept {later : Db} {id : Int} (refreshed : Refreshed env db later)
    (found : db.subs.lookup id = some sub) (undue : Undue env db sub) : later.subs.lookup id = some sub := by
  have rows := refreshed.rows id
  rw [found] at rows
  generalize later.subs.lookup id = new at rows ⊢
  cases rows with
  | some renewed =>
    rcases renewed with rfl | ⟨active, rfl⟩
    · rfl
    · rw [undue active]

theorem Refreshed.save {later : UserSubscription}
    (present : db.subs.lookup sub.id = some sub) (renewed : Renewed env db sub later) :
    Refreshed env db (saveSubscription later db) := by
  refine ⟨rfl, fun id => ?_⟩
  change Option.Rel _ _ ((db.subs.save later).lookup id)
  rw [lookup_save, renewed.resetOf.id_eq]
  by_cases same : id = sub.id
  · rw [if_pos same, same, present]
    exact Option.Rel.some renewed
  · rw [if_neg same]
    exact (Refreshed.refl env db).rows id

/-- What the loop relies on in the preparation of a candidate: it sees the plans alone, and it
saves the row it hands on. -/
structure Prepares (env : Env) (prepare : UserSubscription → Program Tx String (Option UserSubscription))
    (prepared : Db → UserSubscription → Option UserSubscription) : Prop where
  confined : ∀ cand, Keeps Confined (prepare cand)
  plans_only : ∀ {db db' : Db}, db'.plans = db.plans → prepared db' = prepared db
  renewed : ∀ {db : Db} {cand sub : UserSubscription}, prepared db cand = some sub →
    sub = cand ∨ sub = refresh env db cand
  skips : ∀ {cand : UserSubscription} {tx after : Tx}, prepare cand tx = (.ok none, after) →
    prepared tx.view cand = none ∧ Shows tx tx.view after
  hands_on : ∀ {cand sub : UserSubscription} {tx after : Tx},
    tx.view.subs.lookup cand.id = some cand → prepare cand tx = (.ok (some sub), after) →
    prepared tx.view cand = some sub ∧ Shows tx (saveSubscription sub tx.view) after

theorem saveSubscription_self (present : db.subs.lookup sub.id = some sub) : saveSubscription sub db = db := by
  rw [saveSubscription, save_self present]

variable {tx : Tx} {cand : UserSubscription} {plan : SubscriptionPlan}

theorem getSubscriptionPlanByIdTx_ok {id : Int} {after : Tx} (run : getSubscriptionPlanByIdTx id tx = (.ok plan, after)) :
    tx.view.plans.lookup id = some plan ∧ Shows tx tx.view after := by
  obtain ⟨_, run⟩ := guard_ok run
  obtain ⟨found, shown⟩ := txRead_ok run
  unfold planById at found
  split at found
  next present =>
    cases found
    exact ⟨present, shown⟩
  · cases found

theorem maybeReset_ok {res : UserSubscription} {after : Tx}
    (present : tx.view.subs.lookup sub.id = some sub) (planned : tx.view.plans.lookup sub.planId = some plan)
    (run : maybeResetUserSubscriptionWithPlanTx sub plan env tx = (.ok res, after)) :
    res = refresh env tx.view sub ∧ Shows tx (saveSubscription res tx.view) after := by
  rcases due : dueReset env.utcOffset env.now plan sub with _ | (_ | later)
  · rw [maybeResetUserSubscriptionWithPlanTx, due] at run
    cases run
  · rw [maybeResetUserSubscriptionWithPlanTx, due] at run
    cases run
    rw [saveSubscription_self present]
    exact ⟨by simp only [refresh, planned, due], Shows.refl tx⟩
  · rw [maybeResetUserSubscriptionWithPlanTx, due] at run
    obtain ⟨_, middle, saved, rest⟩ := bind_eq_ok run
    cases rest
    exact ⟨by simp only [refresh, planned, due], txWrite_ok saved⟩

def quotaCandidate (env : Env) (db : Db) (cand : UserSubscription) : Option UserSubscription :=
  (db.plans.lookup cand.planId).map fun _ => refresh env db cand

def tokensCandidate (_ : Env) (db : Db) (cand : UserSubscription) : Option UserSubscription :=
  if hasTokensPlan db cand then some cand else none

theorem quotaCandidate_some (handed : quotaCandidate env db cand = some sub) :
    (db.plans.lookup cand.planId).isSome ∧ sub = refresh env db cand := by
  obtain ⟨plan, planned, rfl⟩ := Option.map_eq_some_iff.mp handed
  exact ⟨by rw [planned]; rfl, rfl⟩

theorem tokensCandidate_some
    (handed : tokensCandidate env db cand = some sub) : hasTokensPlan db sub = true ∧ cand = sub := by
  unfold tokensCandidate at handed
  split at handed
  next planned =>
    cases handed
    exact ⟨planned, rfl⟩
  · cases handed

theorem prepareQuota_prepares (env : Env) : Prepares env (prepareQuota env) (quotaCandidate env) where
  confined := prepareQuota_confined env
  plans_only same := by
    funext cand
    simp only [quotaCandidate, refresh, same]
  renewed found := Or.inr (quotaCandidate_some found).2
  skips run := by
    obtain ⟨plan, middle, _, rest⟩ := bind_eq_ok run
    obtain ⟨sub, last, _, ended⟩ := bind_eq_ok rest
    cases ended
  hands_on present run := by
    obtain ⟨plan, middle, planned, rest⟩ := bind_eq_ok run
    obtain ⟨found, shown⟩ := getSubscriptionPlanByIdTx_ok planned
    obtain ⟨sub, last, reset, ended⟩ := bind_eq_ok rest
    cases ended
    rw [← shown.view_eq] at present found ⊢
    obtain ⟨rfl, saved⟩ := maybeReset_ok present found reset
    exact ⟨by rw [quotaCandidate, found]; rfl, shown.trans saved⟩

theorem prepareTokens_prepares (env : Env) : Prepares env (prepareTokens env) (tokensCandidate env) where
  confined := prepareTokens_confined env
  plans_only {db db'} same := by
    funext cand
    have agree : hasTokensPlan db' cand = hasTokensPlan db cand := by
      rw [hasTokensPlan, hasTokensPlan, same]
    rw [tokensCandidate, tokensCandidate, agree]
  renewed found := Or.inl (tokensCandidate_some found).2.symm
  skips run := by
    obtain ⟨plan, middle, planned, ended⟩ := bind_eq_ok run
    obtain ⟨found, shown⟩ := getSubscriptionPlanByIdTx_ok planned
    by_cases tokens : plan.planType = .tokens
    · rw [if_pos tokens] at ended
      cases ended
    · rw [if_neg tokens] at ended
      cases ended
      exact ⟨by simp [tokensCandidate, hasTokensPlan, found, tokens], shown⟩
  hands_on present run := by
    obtain ⟨plan, middle, planned, ended⟩ := bind_eq_ok run
    obtain ⟨found, shown⟩ := getSubscriptionPlanByIdTx_ok planned
    by_cases tokens : plan.planType = .tokens
    · rw [if_pos tokens] at ended
      cases ended
      rw [saveSubscription_self present]
      exact ⟨by simp [tokensCandidate, hasTokensPlan, found, tokens], shown⟩
    · rw [if_neg tokens] at ended
      cases ended

/-! Pre-consumption. -/

/-- The sums of the meter are unbounded. -/
class Meter.Exact (meter : Meter) : Prop where
  fit_eq : ∀ val, meter.fit val = val

instance : amountMeter.Exact := ⟨fun _ => rfl⟩

instance : tokensMeter.Exact := ⟨fun _ => rfl⟩

variable {res : PreConsumeResult} {now : Int} {record : SubscriptionPreConsumeRecord}

section PreConsume

variable (meter : Meter) {requestId modelName insufficient : String} {userId amount : Int}

/-- The tables after a pre-consumption of `amount` from `sub`. -/
def Meter.charge (requestId : String) (userId amount : Int) (sub : UserSubscription) (db : Db) : Db :=
  saveSubscription (meter.charged sub amount)
    (saveRecord ⟨requestId, userId, sub.id, amount, .consumed⟩ db)

/-- The result of a pre-consumption of `amount` from `sub`. -/
def Meter.receipt (amount : Int) (sub : UserSubscription) : PreConsumeResult :=
  ⟨sub.id, amount, meter.limit sub, meter.used sub, meter.fit (meter.used sub + amount), sub.applicableModels⟩

theorem recordByRequestId_fresh (fresh : db.records.lookup requestId = none) :
    recordByRequestId requestId db = .error recordNotFound := by
  rw [recordByRequestId, fresh]

theorem consume_ok {after : Tx} (fresh : tx.view.records.lookup requestId = none)
    (run : meter.consume requestId userId amount sub tx = (.ok res, after)) :
    res = meter.receipt amount sub ∧ Shows tx (meter.charge requestId userId amount sub tx.view) after := by
  rw [Meter.consume, attempt_bind] at run
  rcases created : createRecord ⟨requestId, userId, sub.id, amount, .consumed⟩ tx with ⟨e | _, middle⟩
  · have shown := txWrite_error created
    rw [created] at run
    dsimp only at run
    rw [attempt_bind] at run
    rcases found : txRead (recordByRequestId requestId) middle with ⟨e' | dup, last⟩
    · rw [found] at run
      cases run
    · have impossible := (txRead_ok found).1
      rw [shown.view_eq, recordByRequestId_fresh fresh] at impossible
      cases impossible
  · have inserted := txWrite_ok created
    rw [created] at run
    obtain ⟨_, last, saved, ended⟩ := bind_eq_ok run
    cases ended
    refine ⟨by rw [Meter.receipt, Meter.charged, meter.used_setUsed], inserted.trans ?_⟩
    have final := txWrite_ok saved
    rw [inserted.view_eq] at final
    exact final

variable {prepare : UserSubscription → Program Tx String (Option UserSubscription)} {prepared : Db → UserSubscription → Option UserSubscription}

/-- The loop charges the first eligible candidate; the candidates before it may have been reset. -/
theorem consumeFirst_ok (spec : Prepares env prepare prepared) (cands : List UserSubscription)
    {after : Tx} (distinct : (cands.map UserSubscription.id).Nodup)
    (present : ∀ cand ∈ cands, tx.view.subs.lookup cand.id = some cand)
    (active : ∀ cand ∈ cands, isActive env.now cand.userId cand = true)
    (fresh : tx.view.records.lookup requestId = none)
    (run : meter.consumeFirst prepare insufficient requestId userId modelName amount cands tx = (.ok res, after)) :
    ∃ db sub, Refreshed env tx.view db ∧ db.subs.lookup sub.id = some sub ∧
      (cands.filterMap (prepared tx.view)).find? (meter.eligible modelName amount) = some sub ∧
      res = meter.receipt amount sub ∧ Shows tx (meter.charge requestId userId amount sub db) after := by
  induction cands generalizing tx with
  | nil => cases run
  | cons cand rest tail =>
    obtain ⟨outcome, middle, first, remaining⟩ := bind_eq_ok run
    rw [map_cons, nodup_cons] at distinct
    cases outcome with
    | none =>
      obtain ⟨skipped, shown⟩ := spec.skips first
      have same := shown.view_eq
      obtain ⟨db, sub, refreshed, stored, found, answer, final⟩ := tail distinct.2
        (fun other mem => by rw [same]; exact present other (mem_cons_of_mem _ mem))
        (fun other mem => active other (mem_cons_of_mem _ mem)) (by rw [same]; exact fresh) remaining
      rw [same] at refreshed found
      exact ⟨db, sub, refreshed, stored, by rw [filterMap_cons_none skipped]; exact found, answer,
        shown.trans final⟩
    | some sub =>
      have here := present cand mem_cons_self
      obtain ⟨handed, shown⟩ := spec.hands_on here first
      have renewed : Renewed env tx.view cand sub :=
        (spec.renewed handed).imp_right fun same => ⟨active cand mem_cons_self, same⟩
      have refreshed := Refreshed.save here renewed
      have same := shown.view_eq
      have stored : (saveSubscription sub tx.view).subs.lookup sub.id = some sub := lookup_save_self _ _
      dsimp only at remaining
      by_cases fits : meter.eligible modelName amount sub = true
      · rw [if_pos fits] at remaining
        obtain ⟨answer, final⟩ := consume_ok meter (by rw [same]; exact fresh) remaining
        rw [same] at final
        refine ⟨_, sub, refreshed, stored, ?_, answer, shown.trans final⟩
        rw [filterMap_cons_some handed, find?_cons_of_pos fits]
      · rw [if_neg fits] at remaining
        have others : ∀ other ∈ rest, middle.view.subs.lookup other.id = some other := by
          intro other mem
          have ne : other.id ≠ sub.id := by
            rw [renewed.resetOf.id_eq]
            intro equal
            exact distinct.1 (equal ▸ mem_map_of_mem mem)
          rw [same]
          change (tx.view.subs.save sub).lookup other.id = some other
          rw [lookup_save, if_neg ne]
          exact present other (mem_cons_of_mem _ mem)
        obtain ⟨db, chosen, later, storedLater, found, answer, final⟩ :=
          tail distinct.2 others (fun other mem => active other (mem_cons_of_mem _ mem))
            (by rw [same]; exact fresh) remaining
        have unseen : prepared (saveSubscription sub tx.view) = prepared tx.view := spec.plans_only rfl
        rw [same] at later found
        rw [unseen] at found
        refine ⟨db, chosen, refreshed.trans later, storedLater, ?_, answer, shown.trans final⟩
        rw [filterMap_cons_some handed, find?_cons_of_neg fits]
        exact found

theorem activeSubscriptions_mem
    (mem : sub ∈ activeSubscriptions now userId db) : sub ∈ db.subs.rows ∧ isActive now userId sub = true := by
  rw [activeSubscriptions, mem_insertionSort, List.mem_filter] at mem
  exact mem

theorem isActive_owner (active : isActive now userId sub = true) : isActive now sub.userId sub = true := by
  simp only [isActive, Bool.and_eq_true, beq_iff_eq] at active ⊢
  exact ⟨⟨trivial, active.1.2⟩, active.2⟩

theorem activeSubscriptions_nodup (userId now : Int) (db : Db) :
    ((activeSubscriptions now userId db).map UserSubscription.id).Nodup := by
  have sorted : (activeSubscriptions now userId db).Perm (db.subs.rows.filter (isActive now userId)) :=
    perm_insertionSort _ _
  rw [(sorted.map UserSubscription.id).nodup_iff]
  exact db.subs.distinct.sublist (filter_sublist.map _)

theorem preConsumeTx_ok (spec : Prepares env prepare prepared) {after : Tx}
    (fresh : tx.view.records.lookup requestId = none)
    (run : meter.preConsumeTx prepare insufficient requestId userId modelName amount env.now tx =
      (.ok res, after)) : ∃ db sub, Refreshed env tx.view db ∧ db.subs.lookup sub.id = some sub ∧
      ((activeSubscriptions env.now userId tx.view).filterMap (prepared tx.view)).find?
        (meter.eligible modelName amount) = some sub ∧
      res = meter.receipt amount sub ∧ Shows tx (meter.charge requestId userId amount sub db) after := by
  obtain ⟨existing, second, looked, rest⟩ := bind_eq_ok run
  obtain ⟨same, shown⟩ := txRead_ok looked
  rw [fresh] at same
  cases same
  dsimp only at rest
  rw [attempt_bind] at rest
  rcases listed : txRead (fun db => .ok (activeSubscriptions env.now userId db)) second with ⟨_ | subs, third⟩
  · rw [listed] at rest
    cases rest
  obtain ⟨equal, again⟩ := txRead_ok listed
  rw [shown.view_eq] at equal again
  cases equal
  rw [listed] at rest
  have moved := shown.trans again
  cases cands : activeSubscriptions env.now userId tx.view with
  | nil =>
    rw [cands] at rest
    cases rest
  | cons first others =>
    have distinct := activeSubscriptions_nodup userId env.now tx.view
    have members := fun cand => @activeSubscriptions_mem tx.view cand env.now userId
    rw [cands] at rest distinct members
    have found := consumeFirst_ok meter spec (first :: others) distinct
      (fun cand mem => by
        rw [moved.view_eq]
        exact lookup_of_mem (members cand mem).1)
      (fun cand mem => isActive_owner (members cand mem).2) (by rw [moved.view_eq]; exact fresh) rest
    obtain ⟨db, sub, refreshed, stored, chosen, answer, final⟩ := found
    rw [moved.view_eq] at refreshed chosen
    exact ⟨db, sub, refreshed, stored, chosen, answer, moved.trans final⟩

def Meter.firstEligible (prepared : Env → Db → UserSubscription → Option UserSubscription) (env : Env)
    (userId : Int) (modelName : String) (amount : Int) (db : Db) : Option UserSubscription :=
  ((activeSubscriptions env.now userId db).filterMap (prepared env db)).find?
    (meter.eligible modelName amount)

theorem firstEligible_some {prepared : Env → Db → UserSubscription → Option UserSubscription}
    (found : meter.firstEligible prepared env userId modelName amount db = some sub) :
    meter.eligible modelName amount sub = true ∧ ∃ cand ∈ db.subs.rows, prepared env db cand = some sub := by
  have mem := mem_of_find?_eq_some found
  obtain ⟨cand, listed, handed⟩ := mem_filterMap.mp mem
  exact ⟨find?_some found, cand, (activeSubscriptions_mem listed).1, handed⟩

variable {prepareIn : Env → UserSubscription → Program Tx String (Option UserSubscription)}
  {preparedIn : Env → Db → UserSubscription → Option UserSubscription} {notPositive : String} {world after : World}

section

variable (spec : ∀ env, Prepares env (prepareIn env) (preparedIn env))
include spec

/-- A successful pre-consumption of a new request charges the first eligible subscription. -/
theorem preConsume_ok (fresh : world.db.records.lookup requestId = none)
    (run : meter.preConsume prepareIn insufficient notPositive requestId userId modelName amount world =
      (.ok res, after)) : trimSpace requestId ≠ "" ∧ ∃ db sub,
      Refreshed world.env world.db db ∧ db.subs.lookup sub.id = some sub ∧
      meter.firstEligible preparedIn world.env userId modelName amount world.db = some sub ∧
      res = meter.receipt amount sub ∧ Leads world (meter.charge requestId userId amount sub db) after := by
  obtain ⟨_, run⟩ := guard_ok run
  obtain ⟨named, run⟩ := guard_ok run
  obtain ⟨_, run⟩ := guard_ok run
  obtain ⟨tx, body, leads⟩ := transaction_ok run
  have unused : (Tx.view ⟨world, id⟩).records.lookup requestId = none := fresh
  obtain ⟨db, sub, refreshed, stored, chosen, answer, final⟩ := preConsumeTx_ok meter (spec world.env) unused body
  exact ⟨named, db, sub, refreshed, stored, chosen, answer, leads _ final⟩

theorem preConsume_error {e : String}
    (run : meter.preConsume prepareIn insufficient notPositive requestId userId modelName amount world =
      (.error e, after)) : Idle world after := by
  unfold Meter.preConsume at run
  split at run
  · cases run; exact Leads.refl world
  split at run
  · cases run; exact Leads.refl world
  split at run
  · cases run; exact Leads.refl world
  exact transaction_error (preConsumeTx_confined meter (spec world.env).confined _ _ _ _ _ _) run

theorem preConsume_replays (recorded : world.db.records.lookup requestId = some record) :
    Idle world (meter.preConsume prepareIn insufficient notPositive requestId userId modelName amount world).2 := by
  rcases run : meter.preConsume prepareIn insufficient notPositive requestId userId modelName amount world with
    ⟨e | res, after⟩
  · exact preConsume_error meter spec run
  obtain ⟨_, run⟩ := guard_ok run
  obtain ⟨_, run⟩ := guard_ok run
  obtain ⟨_, run⟩ := guard_ok run
  obtain ⟨tx, body, leads⟩ := transaction_ok run
  apply leads
  obtain ⟨existing, second, looked, rest⟩ := bind_eq_ok body
  obtain ⟨same, shown⟩ := txRead_ok looked
  have found : existing = some record := (Except.ok.inj same).symm.trans recorded
  subst found
  obtain ⟨_, rest⟩ := guard_ok rest
  obtain ⟨sub, third, read, ended⟩ := bind_eq_ok rest
  cases ended
  have again := (txRead_ok read).2
  rw [shown.view_eq] at again
  exact shown.trans again

end

theorem eligible_room [meter.Exact] (fits : meter.eligible modelName amount sub = true) :
    meter.limit sub ≤ 0 ∨ meter.used sub + amount ≤ meter.limit sub := by
  simp only [Meter.eligible, Meter.hasRoom, Bool.and_eq_true, Bool.not_eq_true', Bool.and_eq_false_iff,
    decide_eq_false_iff_not, Meter.Exact.fit_eq] at fits
  omega

end PreConsume

/-! Settlement and refund. -/

section PostConsume

variable (meter : Meter) {userSubscriptionId delta : Int} {world after : World} {changed : UserSubscription}
  {requestId : String}

theorem dueSubscriptionById_ok {id : Int}
    (found : dueSubscriptionById id now db = .ok sub) : db.subs.lookup id = some sub ∧ isDue now sub = true := by
  unfold dueSubscriptionById at found
  split at found
  next stored =>
    split at found
    next due =>
      cases found
      exact ⟨stored, due⟩
    · cases found
  · cases found

theorem subscriptionById_ok {id : Int} (found : subscriptionById id db = .ok sub) : db.subs.lookup id = some sub := by
  unfold subscriptionById at found
  split at found
  next present =>
    cases found
    exact present
  · cases found

theorem recordByRequestId_ok
    (found : recordByRequestId requestId db = .ok record) : db.records.lookup requestId = some record := by
  unfold recordByRequestId at found
  split at found
  next present =>
    cases found
    exact present
  · cases found

theorem postConsumeTx_ok {after : Tx} (run : meter.postConsumeTx userSubscriptionId delta tx = (.ok (), after)) :
    ∃ sub changed, tx.view.subs.lookup userSubscriptionId = some sub ∧ meter.adjusted sub delta = .ok changed ∧
      Shows tx (saveSubscription changed tx.view) after := by
  obtain ⟨sub, middle, looked, rest⟩ := bind_eq_ok run
  obtain ⟨found, shown⟩ := txRead_ok looked
  cases fits : meter.adjusted sub delta with
  | error e =>
    rw [fits] at rest
    cases rest
  | ok changed =>
    rw [fits] at rest
    have saved := txWrite_ok rest
    rw [shown.view_eq] at saved
    exact ⟨sub, changed, subscriptionById_ok found, fits, shown.trans saved⟩

theorem postConsume_ok (run : meter.postConsume userSubscriptionId delta world = (.ok (), after)) :
    delta = 0 ∧ Idle world after ∨
      ∃ sub changed, world.db.subs.lookup userSubscriptionId = some sub ∧ meter.adjusted sub delta = .ok changed ∧
        Leads world (saveSubscription changed world.db) after := by
  obtain ⟨_, run⟩ := guard_ok run
  split at run
  next nothing =>
    cases run
    exact Or.inl ⟨nothing, Leads.refl world⟩
  · obtain ⟨tx, body, leads⟩ := transaction_ok run
    obtain ⟨sub, changed, found, fits, shown⟩ := postConsumeTx_ok meter body
    exact Or.inr ⟨sub, changed, found, fits, leads _ shown⟩

theorem postConsume_error {e : String} (run : meter.postConsume userSubscriptionId delta world = (.error e, after)) :
    Idle world after := by
  unfold Meter.postConsume at run
  split at run
  · cases run; exact Leads.refl world
  split at run
  · cases run
  · exact transaction_error (postConsumeTx_confined meter _ _) run

theorem adjusted_fits (fits : meter.adjusted sub delta = .ok changed) :
    changed = meter.setUsed (meter.newUsed sub delta) sub ∧
      (0 < meter.limit sub → meter.newUsed sub delta ≤ meter.limit sub) := by
  unfold Meter.adjusted at fits
  split at fits
  · cases fits
  next within =>
    cases fits
    exact ⟨rfl, fun limited => Int.not_lt.mp fun beyond => within ⟨limited, beyond⟩⟩

section Exact

variable [meter.Exact]

theorem newUsed_exact (sub : UserSubscription) (delta : Int) :
    meter.newUsed sub delta = max (meter.used sub + delta) 0 := by
  rw [Meter.newUsed, Meter.Exact.fit_eq]
  split <;> omega

theorem adjusted_ok (fits : meter.adjusted sub delta = .ok changed) :
    changed = meter.setUsed (max (meter.used sub + delta) 0) sub ∧
      (meter.limit sub ≤ 0 ∨ max (meter.used sub + delta) 0 ≤ meter.limit sub) := by
  obtain ⟨same, within⟩ := adjusted_fits meter fits
  rw [newUsed_exact] at same within
  exact ⟨same, by omega⟩

theorem adjusted_within (sub : UserSubscription) (delta : Int)
    (fits : meter.limit sub ≤ 0 ∨ meter.used sub + delta ≤ meter.limit sub) :
    meter.adjusted sub delta = .ok (meter.setUsed (max (meter.used sub + delta) 0) sub) := by
  rw [Meter.adjusted, newUsed_exact, if_neg (by omega)]

theorem adjusted_exceeds (sub : UserSubscription) (delta : Int) (limited : 0 < meter.limit sub)
    (exceeds : meter.limit sub < meter.used sub + delta) : ∃ e, meter.adjusted sub delta = .error e := by
  rw [Meter.adjusted, newUsed_exact, if_pos (by omega)]
  exact ⟨_, rfl⟩

end Exact

def Meter.Returned (record : SubscriptionPreConsumeRecord) (before after : Db) : Prop :=
  ∃ sub changed, before.subs.lookup record.userSubscriptionId = some sub ∧ 0 < record.preConsumed ∧
    meter.adjusted sub (-record.preConsumed) = .ok changed ∧ after = saveSubscription changed before

theorem txSave_first (change : Db → Db) (untouched : tx.pending = id) : Idle tx.world (txSave change tx).2.world ∧
      ((txSave change tx).2.pending = id ∨ (txSave change tx).2.pending = change) := by
  have pending := txWrite_pending change (fun _ => .ok ()) tx
  rw [untouched] at pending
  exact ⟨txSave_confined change tx, pending⟩

/-- What the transaction of a refund can have done by its end: the adjustment is committed, the mark is pending. -/
theorem refundTx_outcome (requestId : String) (world : World) :
    ∃ db, Leads world db (meter.refundTx requestId ⟨world, id⟩).2.world ∧
      ((db = world.db ∧ (meter.refundTx requestId ⟨world, id⟩).2.pending = id) ∨
        ∃ record, world.db.records.lookup requestId = some record ∧ (db = world.db ∨ meter.Returned record world.db db) ∧
          ((meter.refundTx requestId ⟨world, id⟩).2.pending = id ∨
            (meter.refundTx requestId ⟨world, id⟩).2.pending = saveRecord { record with status := .refunded })) := by
  have idle := txRead_confined (recordByRequestId requestId) ⟨world, id⟩
  rw [Meter.refundTx, bind_at]
  rcases looked : txRead (recordByRequestId requestId) ⟨world, id⟩ with ⟨e | record, second⟩
  · rw [looked] at idle
    have untouched : second.pending = id := congrArg (fun run => run.2.pending) looked.symm
    exact ⟨world.db, idle, Or.inl ⟨rfl, untouched⟩⟩
  · rw [looked] at idle
    have untouched : second.pending = id := congrArg (fun run => run.2.pending) looked.symm
    have recorded := recordByRequestId_ok (txRead_ok looked).1
    have same := idle.db_eq
    dsimp only
    split
    · exact ⟨world.db, idle, Or.inl ⟨rfl, untouched⟩⟩
    split
    · obtain ⟨marked, pending⟩ := txSave_first (saveRecord { record with status := .refunded }) untouched
      exact ⟨world.db, Idle.trans idle marked, Or.inr ⟨record, recorded, Or.inl rfl, pending⟩⟩
    next pos =>
    rw [bind_at]
    rcases returned : meter.postConsume record.userSubscriptionId (-record.preConsumed) second.world with
      ⟨e | _, third⟩
    · have quiet := postConsume_error meter returned
      rw [onGlobal, zoom_at, returned]
      exact ⟨world.db, Idle.trans idle quiet, Or.inl ⟨rfl, untouched⟩⟩
    · rw [onGlobal, zoom_at, returned]
      have started : (Tx.mk third second.pending).pending = id := untouched
      obtain ⟨marked, pending⟩ := txSave_first (saveRecord { record with status := .refunded }) started
      obtain ⟨zero, _⟩ | ⟨sub, changed, found, fits, led⟩ := postConsume_ok meter returned
      · omega
      · rw [same] at found led
        exact ⟨_, (Leads.trans idle led).still marked, Or.inr ⟨record, recorded,
          Or.inr ⟨sub, changed, found, Int.not_le.mp pos, fits, rfl⟩, pending⟩⟩

/-- However a refund ends, the usage has been adjusted at most once, and the record may have been marked. -/
theorem refund_outcome (requestId : String) (world : World) : Idle world (meter.refund requestId world).2 ∨
      ∃ record db, world.db.records.lookup requestId = some record ∧ (db = world.db ∨ meter.Returned record world.db db) ∧
        (Leads world db (meter.refund requestId world).2 ∨
          Leads world (saveRecord { record with status := .refunded } db) (meter.refund requestId world).2) := by
  unfold Meter.refund
  split
  · exact Or.inl (Leads.refl world)
  obtain ⟨db, led, outcome⟩ := refundTx_outcome meter requestId world
  obtain ⟨res, tx, body, ends⟩ := transaction_ends (meter.refundTx requestId) world
  rw [body] at led outcome
  generalize (transaction (meter.refundTx requestId) world).2 = after at ends ⊢
  have dropped : Idle tx.world after → Leads world db after := led.still
  have applied : ∀ change, tx.pending = change → Leads tx.world tx.view after → Leads world (change db) after := by
    rintro change rfl closed
    rw [Tx.view, led.db_eq] at closed
    exact Leads.trans led closed
  rcases outcome with ⟨rfl, untouched⟩ | ⟨record, recorded, adjusted, untouched | marked⟩
  · exact Or.inl (ends.elim dropped (applied id untouched))
  · exact Or.inr ⟨record, db, recorded, adjusted, Or.inl (ends.elim dropped (applied id untouched))⟩
  · exact Or.inr ⟨record, db, recorded, adjusted, ends.imp dropped (applied _ marked)⟩

/-- Without driver errors a change of usage succeeds exactly when the new usage is within the limit. -/
theorem postConsume_healthy (pos : 0 < userSubscriptionId) (nonzero : delta ≠ 0)
    (found : db.subs.lookup userSubscriptionId = some sub) :
    meter.postConsume userSubscriptionId delta (healthy env db) = match meter.adjusted sub delta with
      | .error e => (.error e, healthy env db)
      | .ok changed => (.ok (), healthy env (saveSubscription changed db)) := by
  rw [Meter.postConsume, if_neg (Int.not_le.mpr pos), if_neg nonzero, transaction, Meter.postConsumeTx, bind_at,
    txRead_healthy, id, subscriptionById, found]
  dsimp only
  cases meter.adjusted sub delta with
  | error e => rfl
  | ok changed => rfl

theorem refund_healthy (env : Env)
    (named : trimSpace requestId ≠ "") (recorded : db.records.lookup requestId = some record)
    (consumed : record.status = .consumed) (charged : 0 < record.preConsumed)
    (pos : 0 < record.userSubscriptionId) (found : db.subs.lookup record.userSubscriptionId = some sub)
    (fits : meter.adjusted sub (-record.preConsumed) = .ok changed) : meter.refund requestId (healthy env db) =
      (.ok (), healthy env (saveRecord { record with status := .refunded } (saveSubscription changed db))) := by
  rw [Meter.refund, if_neg named, transaction, Meter.refundTx, bind_at, txRead_healthy, id, recordByRequestId, recorded]
  dsimp only
  rw [if_neg (by rw [consumed]; decide), if_neg (Int.not_le.mpr charged), bind_at, onGlobal, zoom_at,
    postConsume_healthy meter pos (by omega) found, fits]
  rfl

end PostConsume

end Tokengine.Model.Subscription
