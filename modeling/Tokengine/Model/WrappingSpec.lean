import Tokengine.Model.SubscriptionSpec
import Tokengine.Model.Wrapping

/-! What the operations on a subscription do: rules of pre- and postconditions for those that may reset
rows on their way, whatever the driver answers, and the exact results of the others without driver errors. -/

namespace Tokengine.Model.Wrapping
open Program Database ResetTime Subscription List

/-! Resets. -/

def MaybeReset (env : Env) (sub later : UserSubscription) : Prop :=
  later = sub ∨ ∃ plan, dueReset env.utcOffset env.now plan sub = .ok (some later)

variable {sub : UserSubscription}

theorem MaybeReset.resetOf {env : Env} {later : UserSubscription} (reset : MaybeReset env sub later) :
    ResetOf sub later := by
  rcases reset with rfl | ⟨plan, due⟩
  · exact ResetOf.refl _
  · exact dueReset_resetOf due

variable {base seen later : Db → Prop} {env : Env}

theorem maybeReset_ensures {plan : SubscriptionPlan} (stays : ∀ db, seen db → later db)
    (saves : ∀ db renewed, seen db → dueReset env.utcOffset env.now plan sub = .ok (some renewed) →
      later (saveSubscription renewed db)) :
    Ensures (Within base seen) (maybeResetUserSubscriptionWithPlanTx sub plan env)
      (fun row tx => Within base later tx ∧ MaybeReset env sub row) (Within base seen) := by
  unfold maybeResetUserSubscriptionWithPlanTx
  split
  · exact ensures_throw fun _ start => start
  · exact ensures_pure fun _ start => ⟨⟨start.committed, stays _ start.view⟩, Or.inl rfl⟩
  next renewed due =>
  have writes : Ensures (Within base seen) (txSave (saveSubscription renewed)) (fun _ => Within base later)
      (Within base seen) := txWrite_ensures fun db holds => saves db renewed holds due
  refine ensures_bind writes fun _ => ?_
  exact ensures_pure fun _ ends => ⟨ends, Or.inr ⟨plan, due⟩⟩

theorem prepareQuota_ensures
    (saves : ∀ db renewed, seen db → MaybeReset env sub renewed → seen (saveSubscription renewed db)) :
    Ensures (Within base seen) (prepareQuota env sub)
      (fun prepared tx => Within base seen tx ∧ ∀ row, prepared = some row → MaybeReset env sub row)
      (Within base seen) := by
  refine ensures_bind (ensures_guard (fun _ start => start) (txRead_preserves _)) fun plan => ?_
  have resets : Ensures (Within base seen) (maybeResetUserSubscriptionWithPlanTx sub plan env)
      (fun row tx => Within base seen tx ∧ MaybeReset env sub row) (Within base seen) :=
    maybeReset_ensures (fun _ holds => holds) fun db renewed holds due => saves db renewed holds (Or.inr ⟨plan, due⟩)
  refine ensures_bind resets fun row => ?_
  refine ensures_pure fun tx reset => ⟨reset.1, fun other same => ?_⟩
  cases same
  exact reset.2

theorem prepareTokens_ensures (sub : UserSubscription) : Ensures (Within base seen) (prepareTokens env sub)
      (fun prepared tx => Within base seen tx ∧ ∀ row, prepared = some row → row = sub ∧ hasTokensPlan tx.view sub = true)
      (Within base seen) := by
  refine ensures_bind (ensures_guard (fun _ start => start) (txRead_answers _)) fun plan => ?_
  refine ensures_pure fun tx start => ⟨⟨start.committed, start.view.1⟩, fun row same => ?_⟩
  obtain ⟨tokens, same⟩ := Option.ite_none_right_eq_some.mp same
  have planned := start.view.2
  unfold planById at planned
  split at planned
  next found =>
    cases planned
    exact ⟨(Option.some.inj same).symm, by simp [hasTokensPlan, found, tokens]⟩
  · cases planned

variable {holds : Db → Prop}

theorem resetOneTx_ensures (plan : SubscriptionPlan) (id : Int)
    (resets : ∀ db sub renewed, holds db → db.subs.lookup id = some sub → isDue env.now sub = true →
      dueReset env.utcOffset env.now plan sub = .ok (some renewed) → holds (saveSubscription renewed db)) :
    Ensures (Within holds holds) (resetOneTx env plan id) (fun _ => Within holds holds)
      (fun tx => holds tx.world.db) := by
  have reads : Ensures (Within holds holds)
      (attempt (txRead (dueSubscriptionById id env.now)) : Program Tx String (Except String UserSubscription))
      (fun locked => Within holds fun db => holds db ∧ ∀ sub, locked = .ok sub →
        dueSubscriptionById id env.now db = .ok sub) (fun tx => holds tx.world.db) := txRead_attempt _
  refine ensures_bind reads fun locked => ?_
  cases locked with
  | error _ => exact ensures_pure fun _ start => ⟨start.committed, start.view.1⟩
  | ok sub =>
    refine ensures_bind (ensures_fails (maybeReset_ensures (fun _ start => start.1) fun db renewed start due => ?_)
      fun _ ends => ends.committed) fun _ => ensures_pure fun _ ends => ends.1
    obtain ⟨stored, isDue⟩ := dueSubscriptionById_ok (start.2 sub rfl)
    exact resets db sub renewed start.1 stored isDue due

theorem resetEach_preserves
    (resets : ∀ db sub plan renewed, holds db → db.subs.lookup sub.id = some sub → isDue env.now sub = true →
      dueReset env.utcOffset env.now plan sub = .ok (some renewed) → holds (saveSubscription renewed db))
    (subs : List UserSubscription) (resetCount : Int) :
    Preserves (fun world => holds world.db) (resetEach env subs resetCount) := by
  induction subs generalizing resetCount with
  | nil => exact ensures_pure fun _ start => start
  | cons sub rest tail =>
    refine ensures_bind (preserves_attempt (ensures_guard (fun _ start => start) (dbRead_preserves _))) fun plan => ?_
    cases plan with
    | error _ => exact tail resetCount
    | ok plan =>
      have one := resetOneTx_ensures plan sub.id fun db row renewed start stored isDue due =>
        resets db row plan renewed start ((Table.lookup_some stored).2.symm ▸ stored) isDue due
      exact ensures_bind (transaction_ensures (fun _ start => ⟨start, start⟩) one) fun reset => tail _

theorem resetDueSubscriptions_ensures {world : World} (start : holds world.db)
    (resets : ∀ db sub plan renewed, holds db → db.subs.lookup sub.id = some sub → isDue world.env.now sub = true →
      dueReset world.env.utcOffset world.env.now plan sub = .ok (some renewed) → holds (saveSubscription renewed db))
    (limit : Int) : holds (resetDueSubscriptions limit world).2.db := by
  unfold resetDueSubscriptions
  rw [getEnv_bind]
  exact ensures_state (ensures_bind (dbRead_preserves _) fun subs => resetEach_preserves resets subs 0) start

/-! Pre-consumption. -/

section PreConsume

variable {meter : Meter} {requestId : String} {userId amount : Int}

theorem consume_ensures (answered : ∀ db, seen db → later db) (charges : ∀ db, seen db →
      later (saveSubscription (meter.charged sub amount) (saveRecord ⟨requestId, userId, sub.id, amount, .consumed⟩ db))) :
    Ensures (Within base seen) (meter.consume requestId userId amount sub) (fun _ => Within base later)
      (fun tx => base tx.world.db) := by
  let recorded : Db → Prop := fun db => later (saveSubscription (meter.charged sub amount) db)
  have records : Ensures (Within base seen) (createRecord ⟨requestId, userId, sub.id, amount, .consumed⟩)
      (fun _ => Within base recorded) (Within base seen) := txWrite_ensures fun db holds => charges db holds
  have tried : Ensures (Within base seen)
      (attempt (createRecord ⟨requestId, userId, sub.id, amount, .consumed⟩) : Program Tx String (Except String Unit))
      (fun created => Within base fun db => created = .ok () ∧ recorded db ∨ created ≠ .ok () ∧ seen db)
      (fun tx => base tx.world.db) :=
    ensures_attempt (ensures_mono records (fun _ start => start)
      (fun _ _ ends => ⟨ends.committed, Or.inl ⟨rfl, ends.view⟩⟩) fun _ ends _ => ⟨ends.committed, Or.inr ⟨nofun, ends.view⟩⟩)
  refine ensures_bind tried fun created => ?_
  cases created with
  | error e =>
    refine ensures_bind (preserves_attempt (txRead_preserves _)) fun dup => ?_
    cases dup with
    | error _ => exact ensures_throw fun _ start => start.committed
    | ok dup =>
      refine ensures_guard (fun _ start => start.committed) (ensures_pure fun _ start => ⟨start.committed, ?_⟩)
      rcases start.view with ⟨same, _⟩ | ⟨_, holds⟩
      · cases same
      · exact answered _ holds
  | ok _ =>
    have saves : Ensures (Within base recorded) (txSave (saveSubscription (meter.charged sub amount)))
        (fun _ => Within base later) (Within base recorded) := txWrite_ensures fun db holds => holds
    refine ensures_bind (ensures_mono saves (fun _ start => ⟨start.committed, ?_⟩) (fun _ _ ends => ends)
      fun _ ends => ends.committed) fun _ => ensures_pure fun _ ends => ends
    rcases start.view with ⟨_, holds⟩ | ⟨ne, _⟩
    · exact holds
    · exact absurd rfl ne

variable {start : Db → Prop} {known ready : UserSubscription → Prop} (insufficient modelName : String)
  {prepare : UserSubscription → Program Tx String (Option UserSubscription)}

def Prepares (base seen : Db → Prop) (known ready : UserSubscription → Prop)
    (prepare : UserSubscription → Program Tx String (Option UserSubscription)) : Prop :=
  ∀ sub, known sub → Ensures (Within base seen) (prepare sub)
    (fun prepared tx => Within base seen tx ∧ ∀ row, prepared = some row → ready row) (Within base seen)

theorem replay_ensures (record : SubscriptionPreConsumeRecord) :
    Ensures (Within base seen) (meter.replay record) (fun _ => Within base seen) (fun tx => base tx.world.db) := by
  refine ensures_guard (fun _ start => start.committed) ?_
  refine ensures_bind (ensures_fails (txRead_preserves _) fun _ ends => ends.committed) fun _ => ?_
  exact ensures_pure fun _ start => start

section

variable (prepares : Prepares base seen known ready prepare) (answered : ∀ db, seen db → later db)
  (charges : ∀ db sub, seen db → ready sub → meter.hasRoom sub amount = true →
    later (saveSubscription (meter.charged sub amount) (saveRecord ⟨requestId, userId, sub.id, amount, .consumed⟩ db)))
include prepares answered charges

theorem consumeFirst_ensures {cands : List UserSubscription} (listed : ∀ sub ∈ cands, known sub) :
    Ensures (Within base seen) (meter.consumeFirst prepare insufficient requestId userId modelName amount cands)
      (fun _ => Within base later) (fun tx => base tx.world.db) := by
  induction cands with
  | nil => exact ensures_throw fun _ start => start.committed
  | cons first rest tail =>
    have continues := tail fun sub mem => listed sub (mem_cons_of_mem _ mem)
    refine ensures_bind (ensures_fails (prepares first (listed first mem_cons_self)) fun _ ends => ends.committed)
      fun prepared => ?_
    cases prepared with
    | none => exact ensures_mono continues (fun _ start => start.1) (fun _ _ ends => ends) fun _ ends => ends
    | some sub =>
      intro tx start
      dsimp only
      split
      next eligible =>
        obtain ⟨_, room⟩ := Bool.and_eq_true_iff.mp eligible
        exact consume_ensures answered (fun db holds => charges db sub holds (start.2 sub rfl) room) tx start.1
      · exact continues tx start.1

theorem preConsumeTx_ensures {now : Int} (begins : ∀ db, start db → db.records.lookup requestId = none →
      seen db ∧ ∀ sub ∈ activeSubscriptions now userId db, known sub) (replays : ∀ db, start db → later db) :
    Ensures (Within base start) (meter.preConsumeTx prepare insufficient requestId userId modelName amount now)
      (fun _ => Within base later) (fun tx => base tx.world.db) := by
  refine ensures_bind (ensures_fails (txRead_answers _) fun _ ends => ends.committed) fun existing => ?_
  cases existing with
  | some record =>
    exact ensures_mono (replay_ensures record) (fun _ start => start)
      (fun _ _ ends => ⟨ends.committed, replays _ ends.view.1⟩) fun _ ends => ends
  | none =>
    refine ensures_bind (txRead_attempt _) fun subs => ?_
    match subs with
    | .error _ | .ok [] => exact ensures_throw fun _ start => start.committed
    | .ok (first :: rest) =>
      intro tx opened
      obtain ⟨⟨holds, unrecorded⟩, answer⟩ := opened.view
      have fresh : tx.view.records.lookup requestId = none := Except.ok.inj unrecorded
      have cands : activeSubscriptions now userId tx.view = first :: rest := Except.ok.inj (answer _ rfl)
      obtain ⟨begun, listed⟩ := begins _ holds fresh
      rw [cands] at listed
      exact consumeFirst_ensures insufficient modelName prepares answered charges listed tx ⟨opened.committed, begun⟩

end

/-- The rule for a pre-consumption: a failed one leaves the tables, a successful one has either charged
a row that the loop has prepared or charged nothing. -/
theorem preConsume_ensures {prepare : Env → UserSubscription → Program Tx String (Option UserSubscription)}
    {notPositive : String} {world : World} (opened : start world.db)
    (prepares : Prepares start seen known ready (prepare world.env))
    (begins : ∀ db, start db → db.records.lookup requestId = none →
      seen db ∧ ∀ sub ∈ activeSubscriptions world.env.now userId db, known sub)
    (replays : ∀ db, start db → later db) (answered : ∀ db, seen db → later db)
    (charges : ∀ db sub, seen db → ready sub → 0 < amount → meter.hasRoom sub amount = true →
      later (saveSubscription (meter.charged sub amount) (saveRecord ⟨requestId, userId, sub.id, amount, .consumed⟩ db))) :
    later (meter.preConsume prepare insufficient notPositive requestId userId modelName amount world).2.db := by
  unfold Meter.preConsume
  split
  · exact replays _ opened
  split
  · exact replays _ opened
  split
  · exact replays _ opened
  next pos =>
  have body := preConsumeTx_ensures insufficient modelName prepares answered
    (fun db sub holds isReady => charges db sub holds isReady (not_le.mp pos)) begins replays
  have opens : ∀ world : World, start world.db → Within start start ⟨world, id⟩ := fun _ holds => ⟨holds, holds⟩
  exact ensures_state (ensures_fails (transaction_ensures opens body) fun _ => replays _) opened

end PreConsume

/-! Settlement and refund. -/

variable {userSubscriptionId : Int}

section PostConsume

variable {meter : Meter} {delta : Int}

theorem postConsumeTx_ensures (saves : ∀ db sub changed, seen db → db.subs.lookup userSubscriptionId = some sub →
      meter.adjusted sub delta = .ok changed → later (saveSubscription changed db)) :
    Ensures (Within base seen) (meter.postConsumeTx userSubscriptionId delta) (fun _ => Within base later)
      (fun tx => base tx.world.db) := by
  refine ensures_bind (ensures_fails (txRead_answers _) fun _ ends => ends.committed) fun sub => ?_
  cases changes : meter.adjusted sub delta with
  | error e => exact ensures_throw fun _ start => start.committed
  | ok changed =>
    have writes : Ensures (Within base fun db => seen db ∧ subscriptionById userSubscriptionId db = .ok sub)
        (txSave (saveSubscription changed)) (fun _ => Within base later) _ :=
      txWrite_ensures fun db start => saves db sub changed start.1 (subscriptionById_ok start.2) changes
    exact ensures_fails writes fun _ ends => ends.committed

theorem postConsume_preserves {holds : Db → Prop}
    (saves : ∀ db sub changed, holds db → db.subs.lookup userSubscriptionId = some sub →
      meter.adjusted sub delta = .ok changed → holds (saveSubscription changed db)) :
    Preserves (fun world => holds world.db) (meter.postConsume userSubscriptionId delta) := by
  refine ensures_guard (fun _ start => start) ?_
  split
  · exact ensures_pure fun _ start => start
  · exact transaction_ensures (fun _ start => ⟨start, start⟩) (postConsumeTx_ensures saves)

def postConsumed (meter : Meter) (userSubscriptionId delta : Int) (db : Db) : Except String Db :=
  if userSubscriptionId ≤ 0 then .error "invalid userSubscriptionId"
  else if delta = 0 then .ok db
  else match db.subs.lookup userSubscriptionId with
    | none => .error recordNotFound
    | some sub => (meter.adjusted sub delta).map fun changed => saveSubscription changed db

theorem postConsumed_ok {db after : Db} (done : postConsumed meter userSubscriptionId delta db = .ok after) :
    delta = 0 ∧ after = db ∨ delta ≠ 0 ∧ ∃ sub changed, db.subs.lookup userSubscriptionId = some sub ∧
      meter.adjusted sub delta = .ok changed ∧ after = saveSubscription changed db := by
  unfold postConsumed at done
  split at done
  · cases done
  split at done
  next zero =>
    cases done
    exact Or.inl ⟨zero, rfl⟩
  next changes =>
  split at done
  · cases done
  next sub found =>
  cases fits : meter.adjusted sub delta with
  | error e =>
    rw [fits] at done
    cases done
  | ok changed =>
    rw [fits] at done
    cases done
    exact Or.inr ⟨changes, sub, changed, found, fits, rfl⟩

def ending (env : Env) (db : Db) : Except String Db → Except String Unit × World
  | .error e => (.error e, healthy env db)
  | .ok after => (.ok (), healthy env after)

theorem postConsume_healthy (meter : Meter) (userSubscriptionId delta : Int) (env : Env) (db : Db) :
    meter.postConsume userSubscriptionId delta (healthy env db) =
      ending env db (postConsumed meter userSubscriptionId delta db) := by
  unfold Meter.postConsume postConsumed
  split
  · rfl
  split
  · rfl
  rw [transaction, Meter.postConsumeTx, bind_at, txRead_healthy, id, subscriptionById]
  cases db.subs.lookup userSubscriptionId with
  | none => rfl
  | some sub =>
    dsimp only
    cases meter.adjusted sub delta with
    | error e => rfl
    | ok changed => rfl

def refunded (meter : Meter) (requestId : String) (db : Db) : Except String Db :=
  if Text.trimSpace requestId = "" then .error "requestId is empty"
  else match db.records.lookup requestId with
    | none => .error recordNotFound
    | some record =>
      if record.status = .refunded then .ok db
      else if record.preConsumed ≤ 0 then .ok (saveRecord { record with status := .refunded } db)
      else (postConsumed meter record.userSubscriptionId (-record.preConsumed) db).map
        (saveRecord { record with status := .refunded })

theorem refunded_ok {requestId : String} {db after : Db} (done : refunded meter requestId db = .ok after) :
    ∃ record, db.records.lookup requestId = some record ∧ (record.status = .refunded ∧ after = db ∨
        record.status ≠ .refunded ∧ record.preConsumed ≤ 0 ∧ after = saveRecord { record with status := .refunded } db ∨
        record.status ≠ .refunded ∧ 0 < record.preConsumed ∧ ∃ returned,
          postConsumed meter record.userSubscriptionId (-record.preConsumed) db = .ok returned ∧
          after = saveRecord { record with status := .refunded } returned) := by
  unfold refunded at done
  split at done
  · cases done
  split at done
  · cases done
  next record found =>
  refine ⟨record, found, ?_⟩
  split at done
  next already =>
    cases done
    exact Or.inl ⟨already, rfl⟩
  next consumed =>
  split at done
  next nothing =>
    cases done
    exact Or.inr (Or.inl ⟨consumed, nothing, rfl⟩)
  next pos =>
  cases returned : postConsumed meter record.userSubscriptionId (-record.preConsumed) db with
  | error e =>
    rw [returned] at done
    cases done
  | ok middle =>
    rw [returned] at done
    cases done
    exact Or.inr (Or.inr ⟨consumed, not_le.mp pos, middle, rfl, rfl⟩)

theorem refund_healthy (meter : Meter) (requestId : String) (env : Env) (db : Db) :
    meter.refund requestId (healthy env db) = ending env db (refunded meter requestId db) := by
  unfold Meter.refund refunded
  split
  · rfl
  rw [transaction, Meter.refundTx, bind_at, txRead_healthy, id, recordByRequestId]
  cases db.records.lookup requestId with
  | none => rfl
  | some record =>
    dsimp only
    by_cases already : record.status = .refunded
    · rw [if_pos already, if_pos already]
      rfl
    rw [if_neg already, if_neg already]
    by_cases nothing : record.preConsumed ≤ 0
    · rw [if_pos nothing, if_pos nothing]
      rfl
    rw [if_neg nothing, if_neg nothing, bind_at, onGlobal, zoom_at, postConsume_healthy]
    cases postConsumed meter record.userSubscriptionId (-record.preConsumed) db with
    | error e => rfl
    | ok after => rfl

end PostConsume

/-! Agreement: an operation whose sums are in range is the operation of unbounded arithmetic. -/

section Agreement

/-- The sums that a pre-consumption of `amount` from the row makes are in range. -/
structure Sums (meter : Meter) (amount : Int) (sub : UserSubscription) : Prop where
  left : InRange (meter.limit sub - meter.used sub)
  total : InRange (meter.used sub + amount)

theorem int64_fit (meter : Meter) [exact : meter.Exact] {val : Int} (inRange : InRange val) :
    meter.int64.fit val = meter.fit val := (wrap64_of_inRange inRange).trans (exact.fit_eq val).symm

variable {meter : Meter} [meter.Exact] {requestId modelName insufficient : String} {userId amount delta : Int}

theorem Sums.eligible (sums : Sums meter amount sub) :
    meter.int64.eligible modelName amount sub = meter.eligible modelName amount sub := by
  change (_ && !(_ && decide (meter.int64.fit (meter.limit sub - meter.used sub) < amount))) = _
  rw [int64_fit meter sums.left]
  rfl

theorem Sums.consume (sums : Sums meter amount sub) :
    meter.int64.consume requestId userId amount sub = meter.consume requestId userId amount sub := by
  have charged : meter.int64.charged sub amount = meter.charged sub amount :=
    congrArg (meter.setUsed · sub) (int64_fit meter sums.total)
  unfold Meter.consume
  rw [charged]
  rfl

theorem consumeFirst_int64 {prepare : UserSubscription → Program Tx String (Option UserSubscription)}
    {cands : List UserSubscription} (sums : ∀ cand ∈ cands, ∀ tx row after,
      prepare cand tx = (.ok (some row), after) → Sums meter amount row) (tx : Tx) :
    meter.int64.consumeFirst prepare insufficient requestId userId modelName amount cands tx =
      meter.consumeFirst prepare insufficient requestId userId modelName amount cands tx := by
  induction cands generalizing tx with
  | nil => rfl
  | cons cand rest tail =>
    have others := tail fun other mem => sums other (mem_cons_of_mem _ mem)
    rw [Meter.consumeFirst, Meter.consumeFirst, bind_at, bind_at]
    rcases prepared : prepare cand tx with ⟨_ | (_ | row), after⟩
    · rfl
    · exact others after
    · have here := sums cand mem_cons_self tx row after prepared
      simp only [here.eligible, here.consume]
      split
      · rfl
      · exact others after

theorem preConsume_int64 {prepare : Env → UserSubscription → Program Tx String (Option UserSubscription)}
    {notPositive : String} {world : World} (sums : ∀ cand ∈ activeSubscriptions world.env.now userId world.db,
      ∀ tx row after, prepare world.env cand tx = (.ok (some row), after) → Sums meter amount row) :
    meter.int64.preConsume prepare insufficient notPositive requestId userId modelName amount world =
      meter.preConsume prepare insufficient notPositive requestId userId modelName amount world := by
  have body : meter.int64.preConsumeTx (prepare world.env) insufficient requestId userId modelName amount
        world.env.now ⟨world, id⟩ =
      meter.preConsumeTx (prepare world.env) insufficient requestId userId modelName amount world.env.now ⟨world, id⟩ := by
    rw [Meter.preConsumeTx, Meter.preConsumeTx, bind_at, bind_at]
    rcases looked : txRead (fun db => .ok (db.records.lookup requestId)) (⟨world, id⟩ : Tx) with ⟨_ | (_ | record), second⟩
    · rfl
    · dsimp only
      rw [attempt_bind, attempt_bind]
      rcases listed : txRead (fun db => .ok (activeSubscriptions world.env.now userId db)) second with ⟨_ | subs, third⟩
      · rfl
      have same := (txRead_ok listed).1
      rw [(txRead_ok looked).2.view_eq] at same
      have cands : activeSubscriptions world.env.now userId world.db = subs := Except.ok.inj same
      rcases subs with _ | ⟨first, rest⟩
      · rfl
      · exact consumeFirst_int64 (fun cand mem => sums cand (cands ▸ mem)) third
    · rfl
  unfold Meter.preConsume
  split
  · rfl
  split
  · rfl
  split
  · rfl
  rw [getEnv_bind, getEnv_bind, transaction, transaction, body]

theorem postConsume_int64 {world : World}
    (sums : ∀ sub, world.db.subs.lookup userSubscriptionId = some sub → InRange (meter.used sub + delta)) :
    meter.int64.postConsume userSubscriptionId delta world = meter.postConsume userSubscriptionId delta world := by
  have body : meter.int64.postConsumeTx userSubscriptionId delta ⟨world, id⟩ =
      meter.postConsumeTx userSubscriptionId delta ⟨world, id⟩ := by
    rw [Meter.postConsumeTx, Meter.postConsumeTx, bind_at, bind_at]
    rcases looked : txRead (subscriptionById userSubscriptionId) (⟨world, id⟩ : Tx) with ⟨_ | row, second⟩
    · rfl
    have inRange := sums row (subscriptionById_ok (txRead_ok looked).1)
    have newUsed : meter.int64.newUsed row delta = meter.newUsed row delta := by
      change (if meter.int64.fit (meter.used row + delta) < 0 then 0 else meter.int64.fit (meter.used row + delta)) = _
      rw [int64_fit meter inRange]
      rfl
    have adjusted : meter.int64.adjusted row delta = meter.adjusted row delta := by
      unfold Meter.adjusted
      rw [newUsed]
      rfl
    simp only [adjusted]
  unfold Meter.postConsume
  split
  · rfl
  split
  · rfl
  rw [transaction, transaction, body]

end Agreement

end Tokengine.Model.Wrapping
