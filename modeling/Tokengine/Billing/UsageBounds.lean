import Tokengine.Lib.Runs
import Tokengine.Model.WrappingSpec

/-! The usage of a subscription stays between 0 and its limit over any history of operations, whether
they succeed or fail, as long as no pre-consumption overflows a counter that has no limit. -/

namespace Tokengine.Billing.UsageBounds
open Program Model Database ResetTime Subscription Wrapping Table

/-- The bounds of one counter; a limit is a value of `int64`. -/
structure InBounds (used limit : Int) : Prop where
  nonneg : 0 ≤ used
  limited : 0 < limit → used ≤ limit
  range : limit < 2 ^ 63

structure Bounded (sub : UserSubscription) : Prop where
  amount : InBounds sub.amountUsed sub.amountTotal
  tokens : InBounds sub.tokensUsed sub.tokensLimit

def IsMeter (meter : Meter) : Prop := meter = amountMeter.int64 ∨ meter = tokensMeter.int64

variable {meter : Meter} {sub later : UserSubscription} {amount : Int}

theorem IsMeter.fit_eq (isMeter : IsMeter meter) {val : Int} (inRange : InRange val) : meter.fit val = val := by
  rcases isMeter with rfl | rfl
  · exact wrap64_of_inRange inRange
  · exact wrap64_of_inRange inRange

section

variable (bounded : Bounded sub) (isMeter : IsMeter meter)
include bounded isMeter

theorem Bounded.counter : InBounds (meter.used sub) (meter.limit sub) := by
  rcases isMeter with rfl | rfl
  · exact bounded.amount
  · exact bounded.tokens

theorem Bounded.setUsed {val : Int} (nonneg : 0 ≤ val)
    (limited : 0 < meter.limit sub → val ≤ meter.limit sub) : Bounded (meter.setUsed val sub) := by
  rcases isMeter with rfl | rfl
  · exact ⟨⟨nonneg, limited, bounded.amount.range⟩, bounded.tokens⟩
  · exact ⟨bounded.amount, ⟨nonneg, limited, bounded.tokens.range⟩⟩

theorem Bounded.adjusted {delta : Int} (changes : meter.adjusted sub delta = .ok later) : Bounded later := by
  obtain ⟨rfl, limited⟩ := adjusted_fits meter changes
  refine bounded.setUsed isMeter ?_ limited
  unfold Meter.newUsed
  split <;> omega

end

theorem Bounded.reset (bounded : Bounded sub) (reset : ResetOf sub later) : Bounded later := by
  obtain ⟨used, last, next, rfl, kept⟩ := reset
  refine ⟨?_, bounded.tokens⟩
  rcases kept with rfl | rfl
  · exact bounded.amount
  · exact ⟨le_refl 0, fun limited => le_of_lt limited, bounded.amount.range⟩

def Fits (meter : Meter) (amount : Int) (sub : UserSubscription) : Prop :=
  meter.limit sub ≤ 0 → meter.used sub + amount < 2 ^ 63

theorem Fits.reset (fits : Fits meter amount sub) (bounded : Bounded sub) (isMeter : IsMeter meter)
    (reset : ResetOf sub later) : Fits meter amount later := by
  obtain ⟨used, last, next, rfl, kept⟩ := reset
  rcases isMeter with rfl | rfl
  · intro unlimited
    have before := fits unlimited
    have nonneg := bounded.amount.nonneg
    simp only [amountMeter, Meter.int64] at before nonneg ⊢
    rcases kept with rfl | rfl <;> omega
  · exact fits

section

variable (bounded : Bounded sub) (isMeter : IsMeter meter) (fits : Fits meter amount sub) (pos : 0 < amount)
  (room : meter.hasRoom sub amount = true)
include bounded isMeter fits pos room

/-- The sum that a pre-consumption stores is in range, and within the limit if there is one. -/
theorem Bounded.charge :
    InRange (meter.used sub + amount) ∧ (0 < meter.limit sub → meter.used sub + amount ≤ meter.limit sub) := by
  obtain ⟨nonneg, limited, range⟩ := bounded.counter isMeter
  have sum : 0 < meter.limit sub → meter.used sub + amount ≤ meter.limit sub := by
    intro hasLimit
    have inRange : InRange (meter.limit sub - meter.used sub) := by
      have := limited hasLimit
      constructor <;> omega
    rw [Meter.hasRoom, isMeter.fit_eq inRange, decide_eq_true hasLimit, Bool.true_and, Bool.not_eq_true',
      decide_eq_false_iff_not] at room
    omega
  refine ⟨?_, sum⟩
  by_cases hasLimit : 0 < meter.limit sub
  · constructor <;> omega
  · have := fits (not_lt.mp hasLimit)
    constructor <;> omega

theorem Bounded.charged : Bounded (meter.charged sub amount) := by
  obtain ⟨inRange, sum⟩ := bounded.charge isMeter fits pos room
  have nonneg := (bounded.counter isMeter).nonneg
  rw [Meter.charged, isMeter.fit_eq inRange]
  exact bounded.setUsed isMeter (by omega) sum

end

structure Chargeable (meter : Meter) (amount : Int) (sub : UserSubscription) : Prop where
  bounded : Bounded sub
  fits : Fits meter amount sub

theorem Chargeable.reset (chargeable : Chargeable meter amount sub) (isMeter : IsMeter meter)
    (reset : ResetOf sub later) : Chargeable meter amount later :=
  ⟨chargeable.bounded.reset reset, chargeable.fits.reset chargeable.bounded isMeter reset⟩

/-! The tables. -/

def Has (target : Int) (good : UserSubscription → Prop) (db : Db) : Prop :=
  ∃ row, db.subs.lookup target = some row ∧ good row

abbrev Sound (target : Int) : Db → Prop := Has target Bounded

/-- A charge of `amount` to the row would not overflow, if the call can charge the row at all. -/
abbrev Ready (target : Int) (meter : Meter) (amount : Int) (charges : UserSubscription → Prop) : Db → Prop :=
  Has target fun row => Bounded row ∧ (charges row → Fits meter amount row)

variable {target : Int} {db : Db} {good : UserSubscription → Prop}

theorem Has.sound {charges : UserSubscription → Prop} (ready : Ready target meter amount charges db) : Sound target db := by
  obtain ⟨row, found, bounded, _⟩ := ready
  exact ⟨row, found, bounded⟩

theorem Has.save (has : Has target good db) (fine : sub.id = target → good sub) :
    Has target good (saveSubscription sub db) := by
  have stored := lookup_save db.subs sub target
  split at stored
  next same => exact ⟨sub, stored, fine same.symm⟩
  obtain ⟨row, found, holds⟩ := has
  exact ⟨row, stored.trans found, holds⟩

theorem Has.row (has : Has target good db) (stored : db.subs.lookup sub.id = some sub) : sub.id = target → good sub := by
  intro same
  obtain ⟨row, found, holds⟩ := has
  rw [same, found] at stored
  exact Option.some.inj stored ▸ holds

/-! The operations. -/

section Operations

variable {world : World}

theorem preConsume_sound (isMeter : IsMeter meter)
    {prepare : Env → UserSubscription → Program Tx String (Option UserSubscription)} (insufficient notPositive : String)
    (requestId : String) {userId : Int} (modelName : String) {seen : Db → Prop} {known : UserSubscription → Prop}
    (sound : ∀ db, seen db → Sound target db)
    (listed : ∀ db, seen db → ∀ sub ∈ activeSubscriptions world.env.now userId db, known sub)
    (prepares : Prepares seen seen known (fun sub => sub.id = target → Chargeable meter amount sub) (prepare world.env))
    (start : seen world.db) : Sound target
      (meter.preConsume prepare insufficient notPositive requestId userId modelName amount world).2.db := by
  refine preConsume_ensures insufficient modelName start prepares (fun db holds _ => ⟨holds, listed db holds⟩)
    sound sound fun db sub holds chargeable pos room => ?_
  have recorded : Sound target (saveRecord ⟨requestId, userId, sub.id, amount, .consumed⟩ db) := sound db holds
  refine recorded.save fun same => ?_
  rw [Meter.charged, meter.id_setUsed] at same
  exact (chargeable same).bounded.charged isMeter (chargeable same).fits pos room

theorem owner_of_active {now userId : Int} (mem : sub ∈ activeSubscriptions now userId db) : sub.userId = userId := by
  have active := (activeSubscriptions_mem mem).2
  simp only [isActive, Bool.and_eq_true, beq_iff_eq] at active
  exact active.1.1

theorem preConsumeUserSubscription_sound (requestId : String) {userId : Int} (modelName : String)
    (ready : Ready target amountMeter.int64 amount (fun row => row.userId = userId) world.db) :
    Sound target (Wrapping.preConsumeUserSubscription requestId userId modelName amount world).2.db := by
  let seen : Db → Prop := Ready target amountMeter.int64 amount fun row => row.userId = userId
  have listed : ∀ db, seen db → ∀ sub ∈ activeSubscriptions world.env.now userId db, sub.id = target →
      Chargeable amountMeter.int64 amount sub := by
    intro db holds sub mem same
    obtain ⟨bounded, fits⟩ := holds.row (lookup_of_mem (activeSubscriptions_mem mem).1) same
    exact ⟨bounded, fits (owner_of_active mem)⟩
  refine preConsume_sound (Or.inl rfl) _ _ requestId modelName (fun _ => Has.sound) listed (fun sub cand => ?_) ready
  have renewed : ∀ row, MaybeReset world.env sub row → row.id = target → Chargeable amountMeter.int64 amount row :=
    fun row reset same => (cand (reset.resetOf.id_eq ▸ same)).reset (Or.inl rfl) reset.resetOf
  refine ensures_mono (prepareQuota_ensures fun db row holds reset => Has.save holds fun same => ?_)
    (fun _ start => start) (fun _ _ ends => ⟨ends.1, fun row same => renewed row (ends.2 row same)⟩) fun _ ends => ends
  exact ⟨(renewed row reset same).bounded, fun _ => (renewed row reset same).fits⟩

theorem preConsumeUserSubscriptionTokens_sound (requestId : String) {userId : Int} (modelName : String)
    (ready : Ready target tokensMeter.int64 amount
      (fun row => row.userId = userId ∧ hasTokensPlan world.db row = true) world.db) :
    Sound target (Wrapping.preConsumeUserSubscriptionTokens requestId userId modelName amount world).2.db := by
  let seen : Db → Prop := fun db => db.plans = world.db.plans ∧ Ready target tokensMeter.int64 amount
    (fun row => row.userId = userId ∧ hasTokensPlan world.db row = true) db
  have sound : ∀ db, seen db → Sound target db := fun _ holds => holds.2.sound
  have listed : ∀ db, seen db → ∀ sub ∈ activeSubscriptions world.env.now userId db, sub.id = target →
      Bounded sub ∧ (hasTokensPlan world.db sub = true → Fits tokensMeter.int64 amount sub) := by
    intro db holds sub mem same
    obtain ⟨bounded, fits⟩ := holds.2.row (lookup_of_mem (activeSubscriptions_mem mem).1) same
    exact ⟨bounded, fun planned => fits ⟨owner_of_active mem, planned⟩⟩
  refine preConsume_sound (Or.inr rfl) _ _ requestId modelName sound listed (fun sub cand => ?_) ⟨rfl, ready⟩
  refine ensures_mono (prepareTokens_ensures sub) (fun _ start => start) (fun _ tx ends => ⟨ends.1, fun row same => ?_⟩)
    fun _ ends => ends
  obtain ⟨rfl, planned⟩ := ends.2 row same
  intro named
  rw [hasTokensPlan, ends.1.view.1] at planned
  exact ⟨(cand named).1, (cand named).2 planned⟩

theorem postConsume_sound (isMeter : IsMeter meter) (userSubscriptionId delta : Int) :
    Preserves (fun world => Sound target world.db) (meter.postConsume userSubscriptionId delta) := by
  refine postConsume_preserves fun db sub changed sound stored changes => sound.save fun same => ?_
  have known := sound.row ((lookup_some stored).2.symm ▸ stored)
  have kept : changed.id = sub.id := by
    rw [(adjusted_fits meter changes).1, meter.id_setUsed]
  exact (known (kept ▸ same)).adjusted isMeter changes

structure Aside (target : Int) (tx : Tx) : Prop where
  committed : Sound target tx.world.db
  pending : ∀ db, (tx.pending db).subs = db.subs

theorem Aside.within {tx : Tx} (aside : Aside target tx) : Within (Sound target) (Sound target) tx := by
  refine ⟨aside.committed, ?_⟩
  rw [Sound, Has, Tx.view, aside.pending]
  exact aside.committed

theorem aside_read {α : Type} (query : Db → Except String α) : Preserves (Aside target) (txRead query) :=
  preserves_iff.mpr fun tx aside =>
    ⟨(dbRead_idle (fun _ => query tx.view) tx.world).db_eq ▸ aside.committed, aside.pending⟩

theorem aside_record (record : SubscriptionPreConsumeRecord) : Preserves (Aside target) (txSave (saveRecord record)) := by
  refine preserves_iff.mpr fun tx aside => ⟨(txWrite_confined _ _ tx).db_eq ▸ aside.committed, fun db => ?_⟩
  rcases txWrite_pending (saveRecord record) (fun _ => .ok ()) tx with kept | written
  · exact (congrArg Db.subs (congrFun kept db)).trans (aside.pending db)
  · exact (congrArg Db.subs (congrFun written db)).trans (aside.pending db)

theorem aside_global {α : Type} {program : Program World String α}
    (preserved : Preserves (fun world => Sound target world.db) program) : Preserves (Aside target) (onGlobal program) :=
  preserves_iff.mpr fun tx aside => ⟨preserves_iff.mp preserved tx.world aside.committed, aside.pending⟩

theorem refundTx_aside (isMeter : IsMeter meter) (requestId : String) :
    Preserves (Aside target) (meter.refundTx requestId) := by
  refine ensures_bind (aside_read _) fun record => ?_
  split
  · exact ensures_pure fun _ aside => aside
  split
  · exact aside_record _
  · exact ensures_bind (aside_global (postConsume_sound isMeter _ _)) fun _ => aside_record _

theorem refund_sound (isMeter : IsMeter meter) (requestId : String) :
    Preserves (fun world => Sound target world.db) (meter.refund requestId) := by
  refine ensures_guard (fun _ sound => sound) ?_
  have body := ensures_mono (refundTx_aside isMeter requestId) (fun _ start => start) (fun _ _ ends => Aside.within ends)
    fun (tx : Tx) (ends : Aside target tx) => ends.committed
  exact transaction_ensures (fun _ sound => ⟨sound, fun _ => rfl⟩) body

theorem resetDueSubscriptions_sound (limit : Int) (sound : Sound target world.db) :
    Sound target (resetDueSubscriptions limit world).2.db := by
  refine resetDueSubscriptions_ensures sound (fun db sub plan renewed holds stored _ due => holds.save fun same => ?_) limit
  have reset := dueReset_resetOf due
  exact (holds.row stored (reset.id_eq ▸ same)).reset reset

end Operations

/-! Histories. -/

inductive Operation where
  | preConsume (requestId : String) (userId : Int) (modelName : String) (amount : Int)
  | postConsume (userSubscriptionId delta : Int)
  | refund (requestId : String)
  | preConsumeTokens (requestId : String) (userId : Int) (modelName : String) (tokens : Int)
  | postConsumeTokens (userSubscriptionId delta : Int)
  | refundTokens (requestId : String)
  | resetDue (limit : Int)

/-- An operation with its clock and settings, and with what the driver answers to its statements. -/
structure Call where
  env : Env
  (readFaults writeFaults : List (Option String))
  operation : Operation

def perform (db : Db) (call : Call) : Db :=
  let world : World := ⟨call.env, db, call.readFaults, call.writeFaults⟩
  match call.operation with
  | .preConsume requestId userId modelName amount =>
    (Wrapping.preConsumeUserSubscription requestId userId modelName amount world).2.db
  | .postConsume id delta => (Wrapping.postConsumeUserSubscriptionDelta id delta world).2.db
  | .refund requestId => (Wrapping.refundSubscriptionPreConsume requestId world).2.db
  | .preConsumeTokens requestId userId modelName tokens =>
    (Wrapping.preConsumeUserSubscriptionTokens requestId userId modelName tokens world).2.db
  | .postConsumeTokens id delta => (Wrapping.postConsumeUserSubscriptionTokensDelta id delta world).2.db
  | .refundTokens requestId => (Wrapping.refundSubscriptionTokensPreConsume requestId world).2.db
  | .resetDue limit => (resetDueSubscriptions limit world).2.db

/-- A pre-consumption that can charge the subscription does not overflow a counter without a limit. -/
def Fit (target : Int) (db : Db) (call : Call) : Prop :=
  match call.operation with
  | .preConsume _ userId _ amount =>
    ∀ row, db.subs.lookup target = some row → row.userId = userId → Fits amountMeter amount row
  | .preConsumeTokens _ userId _ tokens =>
    ∀ row, db.subs.lookup target = some row → row.userId = userId ∧ hasTokensPlan db row = true → Fits tokensMeter tokens row
  | _ => True

theorem sound_perform {target : Int} {db : Db} {call : Call} (sound : Sound target db) (fit : Fit target db call) :
    Sound target (perform db call) := by
  obtain ⟨env, readFaults, writeFaults, operation⟩ := call
  have ready : ∀ {meter : Meter} {amount : Int} {charges : UserSubscription → Prop},
      (∀ row, db.subs.lookup target = some row → charges row → Fits meter amount row) →
      Ready target meter amount charges db := by
    intro meter amount charges fits
    obtain ⟨row, found, bounded⟩ := sound
    exact ⟨row, found, bounded, fits row found⟩
  cases operation with
  | preConsume requestId userId modelName amount =>
    exact preConsumeUserSubscription_sound requestId modelName (ready fit)
  | postConsume id delta => exact ensures_state (postConsume_sound (Or.inl rfl) id delta) sound
  | refund requestId => exact ensures_state (refund_sound (Or.inl rfl) requestId) sound
  | preConsumeTokens requestId userId modelName tokens =>
    exact preConsumeUserSubscriptionTokens_sound requestId modelName (ready fit)
  | postConsumeTokens id delta => exact ensures_state (postConsume_sound (Or.inr rfl) id delta) sound
  | refundTokens requestId => exact ensures_state (refund_sound (Or.inr rfl) requestId) sound
  | resetDue limit => exact resetDueSubscriptions_sound limit sound

/-- A subscription as it is created: nothing is used, and its limits are values of `int64`. -/
structure Created (sub : UserSubscription) : Prop where
  amountUsed : sub.amountUsed = 0
  tokensUsed : sub.tokensUsed = 0
  amountTotal : InRange sub.amountTotal
  tokensLimit : InRange sub.tokensLimit

theorem Created.bounded (created : Created sub) : Bounded sub := by
  obtain ⟨amountUsed, tokensUsed, amountTotal, tokensLimit⟩ := created
  refine ⟨⟨?_, ?_, amountTotal.2⟩, ⟨?_, ?_, tokensLimit.2⟩⟩ <;> omega

/-- In a history without an overflow both counters of a subscription stay within their bounds. -/
theorem usage_stays_bounded (db after : Db) (target : Int) (row : UserSubscription)
    (found : db.subs.lookup target = some row) (created : Created row) (calls : List Call)
    (fit : Runs.Guarded (fun db call => some (perform db call)) (Fit target) db calls)
    (run : Runs.exec (fun db call => some (perform db call)) db calls = some after) :
    ∃ row', after.subs.lookup target = some row' ∧
      0 ≤ row'.amountUsed ∧ (0 < row'.amountTotal → row'.amountUsed ≤ row'.amountTotal) ∧
      0 ≤ row'.tokensUsed ∧ (0 < row'.tokensLimit → row'.tokensUsed ≤ row'.tokensLimit) := by
  have start : Sound target db := ⟨row, found, created.bounded⟩
  have keeps : ∀ db call after, Sound target db → Fit target db call → some (perform db call) = some after →
      Sound target after := by
    rintro db call _ sound fit ⟨⟩
    exact sound_perform sound fit
  obtain ⟨row', found', amount, tokens⟩ := Runs.exec_invariant keeps start fit run
  exact ⟨row', found', amount.nonneg, amount.limited, tokens.nonneg, tokens.limited⟩

def onlySub (amountTotal : Int) : UserSubscription := ⟨2, 1, 5, amountTotal, 0, 0, 2000, .active, 0, 0, 0, 0, ""⟩

def onlySubDb (amountTotal : Int) : Db := { emptyDb with
  plans := Table.empty.save ⟨5, "plan", "never", 0, .quota⟩
  subs := Table.empty.save (onlySub amountTotal) }

def plainCall (operation : Operation) : Call := ⟨plainEnv, [], [], operation⟩

theorem onlySub_created {amountTotal : Int} (inRange : InRange amountTotal) : Created (onlySub amountTotal) := by
  have unlimited : InRange 0 := by decide
  exact ⟨rfl, rfl, inRange, unlimited⟩

theorem onlySubDb_stays_bounded :
    ∃ row', (perform (onlySubDb 100) (plainCall (.preConsume "request" 1 "model" 60))).subs.lookup 2 = some row' ∧
      row'.amountUsed = 60 ∧ 0 ≤ row'.amountUsed := by
  have created : Created (onlySub 100) := onlySub_created (by decide)
  have fit : Runs.Guarded (fun db call => some (perform db call)) (Fit 2) (onlySubDb 100)
      [plainCall (.preConsume "request" 1 "model" 60)] := by
    refine ⟨fun row found _ unlimited => ?_, fun _ _ => trivial⟩
    cases found
    exact absurd unlimited (by decide)
  obtain ⟨row', found, nonneg, _⟩ := usage_stays_bounded (onlySubDb 100) _ 2 _ rfl created _ fit rfl
  exact ⟨row', found, by cases found; rfl, nonneg⟩

/-- Two pre-consumptions of half the range overflow the counter of a subscription without a limit. -/
theorem unlimited_usage_overflows : Created (onlySub 0) ∧
      ∃ after row', Runs.exec (fun db call => some (perform db call)) (onlySubDb 0)
          [plainCall (.preConsume "first" 1 "model" (2 ^ 62)), plainCall (.preConsume "second" 1 "model" (2 ^ 62))] =
            some after ∧ after.subs.lookup 2 = some row' ∧ row'.amountUsed = -2 ^ 63 :=
  ⟨onlySub_created (by decide), _, _, rfl, rfl, by decide⟩

end Tokengine.Billing.UsageBounds
