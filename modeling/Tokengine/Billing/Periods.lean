import Tokengine.Lib.Totals
import Tokengine.Billing.UsageBounds

/-! The usage of a quota subscription and the net charges of the requests of its current period. Books
beside the tables note the period in which a request was pre-consumed and what it has been charged since.
The code keeps no such note: a refund or a settlement changes the usage of whatever period it falls in. -/

namespace Tokengine.Billing.Periods
open Program Model Database ResetTime Subscription Wrapping UsageBounds Option Table List Runs

/-- What a request has been charged so far, and the period in which it was pre-consumed. -/
structure Entry where
  requestId : String
  period : Nat
  net : Int

structure Books where
  db : Db
  period : Nat
  entries : Table Entry.requestId

inductive Action where
  | preConsume (requestId : String) (userId : Int) (modelName : String) (amount : Int)
  | settle (requestId : String) (delta : Int)
  | refund (requestId : String)
  | resetDue (limit : Int)

structure Event where
  env : Env
  action : Action

def turned (target : Int) (before after : Db) : Bool :=
  (before.subs.lookup target).map periodStart != (after.subs.lookup target).map periodStart

def charges (target : Int) (requestId : String) (before after : Db) : Bool :=
  (before.records.lookup requestId).isNone &&
    (after.records.lookup requestId).any fun record => record.userSubscriptionId == target

def givesBack (target : Int) (requestId : String) (db : Db) : Int :=
  match db.records.lookup requestId with
  | none => 0
  | some record =>
    if record.userSubscriptionId = target ∧ record.status ≠ .refunded ∧ 0 < record.preConsumed then record.preConsumed
    else 0

def Books.advance (target : Int) (books : Books) (after : Db) : Books :=
  { books with db := after, period := if turned target books.db after then books.period + 1 else books.period }

def Books.enter (requestId : String) (amount : Int) (books : Books) : Books :=
  { books with entries := books.entries.save ⟨requestId, books.period, amount⟩ }

def Books.change (requestId : String) (delta : Int) (books : Books) : Books :=
  { books with entries := books.entries.update requestId fun entry => { entry with net := entry.net + delta } }

def step (target : Int) (books : Books) (event : Event) : Books :=
  let world := healthy event.env books.db
  match event.action with
  | .preConsume requestId userId modelName amount =>
    let after := (Wrapping.preConsumeUserSubscription requestId userId modelName amount world).2.db
    if charges target requestId books.db after then (books.advance target after).enter requestId amount
    else books.advance target after
  | .settle requestId delta =>
    match Wrapping.postConsumeUserSubscriptionDelta target delta world with
    | (.error _, after) => { books with db := after.db }
    | (.ok _, after) => { books with db := after.db }.change requestId delta
  | .refund requestId =>
    match Wrapping.refundSubscriptionPreConsume requestId world with
    | (.error _, after) => { books with db := after.db }
    | (.ok _, after) => { books with db := after.db }.change requestId (-givesBack target requestId books.db)
  | .resetDue limit => books.advance target (resetDueSubscriptions limit world).2.db

def Books.recorded (books : Books) : Int :=
  books.entries.total fun entry => if entry.period = books.period then entry.net else 0

def Timely (target : Int) (books : Books) (requestId : String) (delta : Int) : Prop :=
  delta ≠ 0 → (∃ entry, books.entries.lookup requestId = some entry ∧ entry.period = books.period) ∧
    ∀ row, books.db.subs.lookup target = some row → 0 ≤ row.amountUsed + delta ∧ row.amountUsed + delta < 2 ^ 63

def InPeriod (target : Int) (books : Books) (event : Event) : Prop :=
  match event.action with
  | .preConsume _ _ _ amount => ∀ row, books.db.subs.lookup target = some row → Fits amountMeter amount row
  | .settle requestId delta => Timely target books requestId delta
  | .refund requestId => Timely target books requestId (-givesBack target requestId books.db)
  | .resetDue _ => True

structure Agree (target : Int) (books : Books) : Prop where
  usage : Has target (fun row => Bounded row ∧ row.amountUsed = books.recorded) books.db
  known : ∀ entry ∈ books.entries.rows, books.db.records.lookup entry.requestId ≠ none
  past : ∀ entry ∈ books.entries.rows, entry.period ≤ books.period

variable {requestId : String} {delta : Int} {db : Db} {row later : UserSubscription} {env : Env}

variable {target : Int} {books : Books} {after : Db}

theorem recorded_change
    (cur : delta ≠ 0 → ∃ entry, books.entries.lookup requestId = some entry ∧ entry.period = books.period) :
    (books.change requestId delta).recorded = books.recorded + delta := by
  unfold Books.change Books.recorded
  cases found : books.entries.lookup requestId with
  | none =>
    have nothing : delta = 0 := by
      by_contra changes
      obtain ⟨entry, stored, _⟩ := cur changes
      exact some_ne_none entry (stored.symm.trans found)
    rw [update_of_none found, nothing, add_zero]
  | some entry =>
    have same := (lookup_some found).2
    rw [update_of_lookup found, total_save, same, column_of_lookup found]
    dsimp only
    by_cases changes : delta = 0
    · subst changes
      omega
    · obtain ⟨_, stored, now⟩ := cur changes
      cases found.symm.trans stored
      omega

theorem entries_change {entry : Entry} (mem : entry ∈ (books.change requestId delta).entries.rows) :
    ∃ old ∈ books.entries.rows, old.requestId = entry.requestId ∧ old.period = entry.period := by
  unfold Books.change at mem
  cases found : books.entries.lookup requestId with
  | none =>
    rw [update_of_none found] at mem
    exact ⟨entry, mem, rfl, rfl⟩
  | some old =>
    rw [update_of_lookup found] at mem
    rcases mem_save.mp mem with rfl | ⟨kept, _⟩
    · exact ⟨old, (lookup_some found).1, rfl, rfl⟩
    · exact ⟨entry, kept, rfl, rfl⟩

variable (agree : Agree target books)

include agree in
theorem Agree.change (timely : Timely target books requestId delta)
    (moved : Has target (fun row => Bounded row ∧ ∀ old, books.db.subs.lookup target = some old →
      row.amountUsed = old.amountUsed + delta) after)
    (records : ∀ id, books.db.records.lookup id ≠ none → after.records.lookup id ≠ none) :
    Agree target ({ books with db := after }.change requestId delta) := by
  obtain ⟨old, found, _, equal⟩ := agree.usage
  obtain ⟨row, stored, bounded, sum⟩ := moved
  have total : ({ books with db := after }.change requestId delta).recorded = books.recorded + delta :=
    recorded_change fun changes => (timely changes).1
  refine ⟨⟨row, stored, bounded, ?_⟩, fun entry mem => ?_, fun entry mem => ?_⟩
  · rw [total, sum old found, equal]
  · obtain ⟨previous, kept, same, _⟩ := entries_change mem
    exact records _ (same ▸ agree.known previous kept)
  · obtain ⟨previous, kept, _, same⟩ := entries_change mem
    exact same ▸ agree.past previous kept

theorem unmoved (stored : after.subs.lookup target = some row)
    (found : db.subs.lookup target = some row) (bounded : Bounded row) :
    Has target (fun later => Bounded later ∧ ∀ old, db.subs.lookup target = some old →
      later.amountUsed = old.amountUsed + 0) after := by
  refine ⟨row, stored, bounded, fun old same => ?_⟩
  cases found.symm.trans same
  rw [add_zero]

theorem moved_by {changed : UserSubscription} (found : db.subs.lookup target = some row)
    (bounded : Bounded row) (fits : amountMeter.int64.adjusted row delta = .ok changed)
    (exact : 0 ≤ row.amountUsed + delta ∧ row.amountUsed + delta < 2 ^ 63) :
    Has target (fun later => Bounded later ∧ ∀ old, db.subs.lookup target = some old →
      later.amountUsed = old.amountUsed + delta) (saveSubscription changed db) := by
  have inRange : InRange (amountMeter.used row + delta) := ⟨le_trans (by decide) exact.1, exact.2⟩
  have val : amountMeter.int64.newUsed row delta = row.amountUsed + delta := by
    have sum : amountMeter.int64.fit (amountMeter.int64.used row + delta) = row.amountUsed + delta :=
      wrap64_of_inRange inRange
    rw [Meter.newUsed, sum]
    exact if_neg (not_lt.mpr exact.1)
  obtain ⟨same, _⟩ := adjusted_fits amountMeter.int64 fits
  have stored : (saveSubscription changed db).subs.lookup target = some changed := by
    have id : target = changed.id := by
      rw [same, Meter.id_setUsed]
      exact (lookup_some found).2.symm
    rw [id]
    exact lookup_save_self _ _
  refine ⟨changed, stored, bounded.adjusted (Or.inl rfl) fits, fun old known => ?_⟩
  cases found.symm.trans known
  rw [same, val]
  rfl

include agree in
theorem agree_settle
    (timely : Timely target books requestId delta) : Agree target (step target books ⟨env, .settle requestId delta⟩) := by
  have ending := postConsume_healthy amountMeter.int64 target delta env books.db
  simp only [step, Wrapping.postConsumeUserSubscriptionDelta, ending]
  cases done : postConsumed amountMeter.int64 target delta books.db with
  | error e => exact agree
  | ok after =>
    obtain ⟨row, found, bounded, _⟩ := agree.usage
    rcases postConsumed_ok done with ⟨rfl, rfl⟩ | ⟨changes, sub, changed, stored, fits, rfl⟩
    · exact agree.change timely (unmoved found found bounded) fun _ kept => kept
    · cases found.symm.trans stored
      exact agree.change timely (moved_by found bounded fits ((timely changes).2 row found)) fun _ kept => kept

theorem records_kept {returned : Db} {record : SubscriptionPreConsumeRecord} (same : returned.records = db.records)
    (id : String) (kept : db.records.lookup id ≠ none) : (saveRecord record returned).records.lookup id ≠ none := by
  change (returned.records.save record).lookup id ≠ none
  rw [lookup_save, same]
  split
  · exact some_ne_none _
  · exact kept

include agree in
theorem agree_refund (timely : Timely target books requestId (-givesBack target requestId books.db)) :
    Agree target (step target books ⟨env, .refund requestId⟩) := by
  have ending := refund_healthy amountMeter.int64 requestId env books.db
  simp only [step, Wrapping.refundSubscriptionPreConsume, ending]
  cases done : refunded amountMeter.int64 requestId books.db with
  | error e => exact agree
  | ok after =>
    obtain ⟨row, found, bounded, _⟩ := agree.usage
    obtain ⟨record, recorded, ends⟩ := refunded_ok done
    have gives : givesBack target requestId books.db = if record.userSubscriptionId = target ∧ record.status ≠ .refunded ∧
        0 < record.preConsumed then record.preConsumed else 0 := by rw [givesBack, recorded]
    rw [gives] at timely ⊢
    rcases ends with ⟨already, rfl⟩ | ⟨_, nothing, rfl⟩ | ⟨consumed, pos, returned, adjusts, rfl⟩
    · rw [if_neg fun due => due.2.1 already] at timely ⊢
      exact agree.change timely (unmoved found found bounded) fun _ kept => kept
    · rw [if_neg fun due => absurd due.2.2 (not_lt.mpr nothing)] at timely ⊢
      exact agree.change timely (unmoved found found bounded) (records_kept rfl)
    · rcases postConsumed_ok adjusts with ⟨zero, _⟩ | ⟨changes, sub, changed, stored, fits, rfl⟩
      · omega
      by_cases here : record.userSubscriptionId = target
      · rw [if_pos ⟨here, consumed, pos⟩] at timely ⊢
        rw [here] at stored
        cases found.symm.trans stored
        exact agree.change timely (moved_by found bounded fits ((timely changes).2 row found)) (records_kept rfl)
      · rw [if_neg fun due => here due.1] at timely ⊢
        have elsewhere : changed.id ≠ target := by
          rw [(adjusted_fits _ fits).1, Meter.id_setUsed, (lookup_some stored).2]
          exact here
        have kept : (saveSubscription changed books.db).subs.lookup target = some row :=
          (lookup_save_of_ne elsewhere.symm _).trans found
        exact agree.change timely (unmoved kept found bounded) (records_kept rfl)

/-! Periods. -/

theorem recorded_advance (past : ∀ entry ∈ books.entries.rows, entry.period ≤ books.period) (after : Db) :
    (books.advance target after).recorded = if turned target books.db after then 0 else books.recorded := by
  unfold Books.advance Books.recorded
  dsimp only
  split
  · refine total_eq_zero fun entry mem => if_neg ?_
    have := past entry mem
    omega
  · rfl

theorem recorded_enter (books : Books) (amount : Int) (unknown : books.entries.lookup requestId = none) :
    (books.enter requestId amount).recorded = books.recorded + amount := by
  unfold Books.enter Books.recorded
  rw [total_save, column, unknown]
  simp only [map_none, getD_none, if_true]
  omega

theorem period_advance (books : Books) (after : Db) : books.period ≤ (books.advance target after).period := by
  unfold Books.advance
  dsimp only
  split <;> omega

/-- The row after an operation that may have reset it, and has charged `extra` to it. -/
def Moved (row later : UserSubscription) (extra : Int) : Prop :=
  periodStart later = periodStart row ∧ later.amountUsed = row.amountUsed + extra ∨
    periodStart later ≠ periodStart row ∧ later.amountUsed = extra

include agree in
theorem Agree.advance {extra : Int}
    (found : books.db.subs.lookup target = some row) (stored : after.subs.lookup target = some later)
    (moved : Moved row later extra) : later.amountUsed = (books.advance target after).recorded + extra := by
  obtain ⟨old, same, _, equal⟩ := agree.usage
  cases found.symm.trans same
  rw [recorded_advance agree.past, turned, found, stored]
  rcases moved with ⟨kept, used⟩ | ⟨begun, used⟩
  · rw [if_neg (by simp [kept]), used, equal]
  · rw [if_pos (by simpa using fun equal => begun equal.symm), used, zero_add]

abbrev Renewal (now : Int) (row later : UserSubscription) : Prop := later = row ∨ Renews now row later

theorem Renewal.moved {now : Int} (renewal : Renewal now row later) : Moved row later 0 := by
  rcases renewal with rfl | renews
  · exact Or.inl ⟨rfl, (add_zero _).symm⟩
  · rw [Moved, add_zero]
    exact renews.period

include agree in
theorem agree_resetDue (env : Env) (limit : Int) : Agree target (step target books ⟨env, .resetDue limit⟩) := by
  obtain ⟨row, found, bounded, _⟩ := agree.usage
  let holds : Db → Prop := fun db => db.records = books.db.records ∧
    Has target (fun later => Bounded later ∧ Renewal env.now row later) db
  have start : holds books.db := ⟨rfl, row, found, bounded, Or.inl rfl⟩
  have ends : holds (resetDueSubscriptions limit (healthy env books.db)).2.db := by
    refine resetDueSubscriptions_ensures start (fun db sub plan renewed held stored isDue due => ?_) limit
    have renews := dueReset_renews due
    refine ⟨held.1, held.2.save fun same => ?_⟩
    obtain ⟨boundedSub, rfl | again⟩ := held.2.row stored (renews.reset.id_eq ▸ same)
    · exact ⟨boundedSub.reset renews.reset, Or.inr renews⟩
    · simp only [Subscription.isDue, Bool.and_eq_true, decide_eq_true_eq] at isDue
      exact absurd isDue again.undue
  obtain ⟨records, later, stored, boundedLater, kept⟩ := ends
  have equal := agree.advance found stored (Renewal.moved kept)
  refine ⟨⟨later, stored, boundedLater, equal.trans (add_zero _)⟩, fun entry mem => ?_, fun entry mem => ?_⟩
  · change (resetDueSubscriptions limit (healthy env books.db)).2.db.records.lookup entry.requestId ≠ none
    rw [records]
    exact agree.known entry mem
  · exact (agree.past entry mem).trans (period_advance _ _)

/-- What a pre-consumption can have made of the tables. `renewed` is the row before a charge. -/
structure PreConsumed (target : Int) (requestId : String) (now amount : Int) (row : UserSubscription) (before after : Db) :
    Prop where
  records : ∀ id, before.records.lookup id ≠ none → after.records.lookup id ≠ none
  rows : ∃ renewed later, (renewed = row ∨ Renews now row renewed) ∧ after.subs.lookup target = some later ∧
    (charges target requestId before after = false ∧ later = renewed ∨
      before.records.lookup requestId = none ∧ after.records.lookup requestId ≠ none ∧
        charges target requestId before after = true ∧ 0 < amount ∧ amountMeter.int64.hasRoom renewed amount = true ∧
        later = amountMeter.int64.charged renewed amount)

section PreConsumption

variable {view : Db} {sub : UserSubscription} {amount : Int}

theorem maybeReset_renewal (cand : sub.id = target → sub = row)
    (reset : MaybeReset env sub later) (same : later.id = target) : Renewal env.now row later := by
  cases cand (reset.resetOf.id_eq ▸ same)
  exact reset.imp (fun equal => equal) fun ⟨_, due⟩ => dueReset_renews due

theorem preConsumed_nothing (same : view.records = db.records) (has : Has target (Renewal env.now row) view) :
    PreConsumed target requestId env.now amount row db view := by
  obtain ⟨later, stored, renewed⟩ := has
  refine ⟨fun id kept => same ▸ kept, later, later, renewed, stored, Or.inl ⟨?_, rfl⟩⟩
  rw [charges, same]
  cases db.records.lookup requestId <;> rfl

theorem preConsumed_charge (same : view.records = db.records) (fresh : db.records.lookup requestId = none)
    (has : Has target (Renewal env.now row) view) (renewed : sub.id = target → Renewal env.now row sub)
    (pos : 0 < amount) (room : amountMeter.int64.hasRoom sub amount = true) (userId : Int) :
    PreConsumed target requestId env.now amount row db (saveSubscription (amountMeter.int64.charged sub amount)
      (saveRecord ⟨requestId, userId, sub.id, amount, .consumed⟩ view)) := by
  have recorded : (view.records.save ⟨requestId, userId, sub.id, amount, .consumed⟩).lookup requestId =
      some ⟨requestId, userId, sub.id, amount, .consumed⟩ := lookup_save_self view.records _
  have noted : charges target requestId db (saveSubscription (amountMeter.int64.charged sub amount)
      (saveRecord ⟨requestId, userId, sub.id, amount, .consumed⟩ view)) = (sub.id == target) := by
    rw [charges, fresh]
    change (true && ((view.records.save _).lookup requestId).any _) = _
    rw [recorded]
    rfl
  refine ⟨records_kept same, ?_⟩
  by_cases here : sub.id = target
  · have stored : (view.subs.save (amountMeter.int64.charged sub amount)).lookup target =
        some (amountMeter.int64.charged sub amount) := by
      have id : target = (amountMeter.int64.charged sub amount).id := here.symm
      rw [id]
      exact lookup_save_self _ _
    refine ⟨sub, _, renewed here, stored, Or.inr ⟨fresh, ?_, ?_, pos, room, rfl⟩⟩
    · exact fun missing => some_ne_none _ (recorded.symm.trans missing)
    · rw [noted, beq_iff_eq.mpr here]
  · obtain ⟨later, stored, renewal⟩ := has
    refine ⟨later, later, renewal, ?_, Or.inl ⟨?_, rfl⟩⟩
    · have elsewhere : target ≠ (amountMeter.int64.charged sub amount).id := Ne.symm here
      exact (lookup_save_of_ne elsewhere _).trans stored
    · rw [noted, beq_eq_false_iff_ne.mpr here]

theorem preConsume_outcome (found : db.subs.lookup target = some row) (env : Env) (requestId : String) (userId : Int)
    (modelName : String) (amount : Int) : PreConsumed target requestId env.now amount row db
      (Wrapping.preConsumeUserSubscription requestId userId modelName amount (healthy env db)).2.db := by
  let start : Db → Prop := fun view => view = db
  let seen : Db → Prop := fun view =>
    view.records = db.records ∧ db.records.lookup requestId = none ∧ Has target (Renewal env.now row) view
  have prepares : Prepares start seen (fun sub => sub.id = target → sub = row)
      (fun sub => sub.id = target → Renewal env.now row sub) (prepareQuota env) := by
    intro sub cand
    exact ensures_mono (prepareQuota_ensures fun view later holds reset =>
        ⟨holds.1, holds.2.1, holds.2.2.save (maybeReset_renewal cand reset)⟩)
      (fun _ opened => opened) (fun _ _ ends => ⟨ends.1, fun later same => maybeReset_renewal cand (ends.2 later same)⟩)
      fun _ ends => ends
  have begins : ∀ view, start view → view.records.lookup requestId = none →
      seen view ∧ ∀ sub ∈ activeSubscriptions env.now userId view, sub.id = target → sub = row := by
    intro view same fresh
    rw [(same : view = db)] at fresh ⊢
    refine ⟨⟨rfl, fresh, row, found, Or.inl rfl⟩, fun sub mem same => ?_⟩
    have stored := lookup_of_mem (activeSubscriptions_mem mem).1
    rw [same, found] at stored
    exact (Option.some.inj stored).symm
  have begun : start (healthy env db).db := rfl
  refine preConsume_ensures _ modelName begun prepares begins (fun view same => ?_) (fun view holds => ?_)
    fun view sub holds renewed pos room => ?_
  · cases same
    exact preConsumed_nothing rfl ⟨row, found, Or.inl rfl⟩
  · exact preConsumed_nothing holds.1 holds.2.2
  · exact preConsumed_charge holds.1 holds.2.1 holds.2.2 renewed pos room userId

end PreConsumption

include agree

theorem agree_preConsume {userId : Int} {modelName : String} {amount : Int}
    (fits : ∀ row, books.db.subs.lookup target = some row → Fits amountMeter amount row) :
    Agree target (step target books ⟨env, .preConsume requestId userId modelName amount⟩) := by
  obtain ⟨row, found, bounded, _⟩ := agree.usage
  obtain ⟨records, renewed, later, renewal, stored, outcome⟩ :=
    preConsume_outcome found env requestId userId modelName amount
  unfold step
  dsimp only
  generalize (Wrapping.preConsumeUserSubscription requestId userId modelName amount
    (healthy env books.db)).2.db = after at records stored outcome ⊢
  have known : ∀ entry ∈ books.entries.rows, after.records.lookup entry.requestId ≠ none :=
    fun entry mem => records _ (agree.known entry mem)
  have past : ∀ entry ∈ books.entries.rows, entry.period ≤ (books.advance target after).period :=
    fun entry mem => (agree.past entry mem).trans (period_advance _ _)
  have reset : ResetOf row renewed := renewal.elim (fun same => same ▸ ResetOf.refl _) Renews.reset
  have boundedRenewed := bounded.reset reset
  rcases outcome with ⟨uncharged, rfl⟩ | ⟨fresh, recorded, charged, pos, room, rfl⟩
  · rw [if_neg (by rw [uncharged]; exact Bool.false_ne_true)]
    have equal := agree.advance found stored (Renewal.moved renewal)
    exact ⟨⟨later, stored, boundedRenewed, equal.trans (add_zero _)⟩, known, past⟩
  · rw [if_pos charged]
    have before : Fits amountMeter.int64 amount row := fits row found
    have chargeable := before.reset bounded (Or.inl rfl) reset
    obtain ⟨inRange, _⟩ := boundedRenewed.charge (Or.inl rfl) chargeable pos room
    have used : (amountMeter.int64.charged renewed amount).amountUsed = renewed.amountUsed + amount := by
      exact wrap64_of_inRange inRange
    have moved : Moved row (amountMeter.int64.charged renewed amount) amount := by
      rcases Renewal.moved renewal with ⟨kept, same⟩ | ⟨begun, none⟩
      · exact Or.inl ⟨kept, by rw [used]; omega⟩
      · exact Or.inr ⟨begun, by rw [used]; omega⟩
    have unknown : books.entries.lookup requestId = none := by
      cases held : books.entries.lookup requestId with
      | none => rfl
      | some entry =>
        obtain ⟨mem, same⟩ := lookup_some held
        exact absurd (same ▸ fresh) (agree.known entry mem)
    have total := recorded_enter (books.advance target after) amount unknown
    refine ⟨⟨_, stored, boundedRenewed.charged (Or.inl rfl) chargeable pos room, ?_⟩, fun entry mem => ?_,
      fun entry mem => ?_⟩
    · rw [total]
      exact agree.advance found stored moved
    · rcases mem_save.mp mem with rfl | ⟨kept, _⟩
      · exact recorded
      · exact known entry kept
    · rcases mem_save.mp mem with rfl | ⟨kept, _⟩
      · exact le_refl _
      · exact past entry kept

theorem agree_step {event : Event} (inPeriod : InPeriod target books event) :
    Agree target (step target books event) := by
  obtain ⟨env, action⟩ := event
  cases action with
  | preConsume requestId userId modelName amount => exact agree_preConsume agree inPeriod
  | settle requestId delta => exact agree_settle agree inPeriod
  | refund requestId => exact agree_refund agree inPeriod
  | resetDue limit => exact agree_resetDue agree env limit

omit agree

def opened (db : Db) : Books := ⟨db, 0, Table.empty⟩

/-- As long as settlements and refunds fall in the period of their request, the usage of a subscription is what the
requests of its current period have been charged. -/
theorem usage_is_charged_in_period (db : Db) (after : Books) (target : Int) (row : UserSubscription)
    (found : db.subs.lookup target = some row) (created : Created row) (events : List Event)
    (timely : Runs.Guarded (fun books event => some (step target books event)) (InPeriod target) (opened db) events)
    (run : Runs.exec (fun books event => some (step target books event)) (opened db) events = some after) :
    ∃ row', after.db.subs.lookup target = some row' ∧ row'.amountUsed = after.recorded := by
  have start : Agree target (opened db) := by
    refine ⟨⟨row, found, created.bounded, created.amountUsed⟩, ?_, ?_⟩
    · exact forall_mem_nil _
    · exact forall_mem_nil _
  have keeps : ∀ books event after, Agree target books → InPeriod target books event →
      some (step target books event) = some after → Agree target after := by
    rintro books event _ agree inPeriod ⟨⟩
    exact agree_step agree inPeriod
  obtain ⟨row', stored, _, equal⟩ := (exec_invariant keeps start timely run).usage
  exact ⟨row', stored, equal⟩

def periodicSub : UserSubscription := ⟨2, 1, 5, 100, 0, 1000, 5000, .active, 0, 1100, 0, 0, ""⟩

def periodicDb : Db := { emptyDb with
  plans := Table.empty.save ⟨5, "plan", "custom", 100, .quota⟩
  subs := Table.empty.save periodicSub }

def eventAt (now : Int) (action : Action) : Event := ⟨{ plainEnv with now := now }, action⟩

def acrossReset : List Event :=
  [eventAt 1050 (.preConsume "first" 1 "model" 60), eventAt 1150 (.resetDue 0),
    eventAt 1160 (.preConsume "second" 1 "model" 50)]

theorem periodicSub_created : Created periodicSub := by
  have limit : InRange 100 := by decide
  have unlimited : InRange 0 := by decide
  exact ⟨rfl, rfl, limit, unlimited⟩

theorem settlement_in_period : ∃ after row', Runs.exec (fun books event => some (step 2 books event)) (opened periodicDb)
        (acrossReset ++ [eventAt 1170 (.settle "second" (-20))]) = some after ∧
      after.db.subs.lookup 2 = some row' ∧ row'.amountUsed = 30 ∧ row'.amountUsed = after.recorded := by
  have timely : Runs.Guarded (fun books event => some (step 2 books event)) (InPeriod 2) (opened periodicDb)
      (acrossReset ++ [eventAt 1170 (.settle "second" (-20))]) := by
    refine guarded_cons (fun row found => ?_) rfl (guarded_cons trivial rfl
      (guarded_cons (fun row found => ?_) rfl (guarded_cons (fun _ => ⟨⟨_, rfl, rfl⟩, fun row found => ?_⟩) rfl
        trivial)))
    iterate 2
      · cases found
        exact fun unlimited => absurd unlimited (by decide)
    · cases found
      decide
  obtain ⟨row', found, equal⟩ := usage_is_charged_in_period periodicDb _ 2 _ rfl periodicSub_created _ timely rfl
  exact ⟨_, row', rfl, found, by cases found; rfl, equal⟩

/-- The refund of a request from before the reset takes the usage of the request after it. -/
theorem late_refund_reduces_usage : Created periodicSub ∧ ∃ before after row row',
      Runs.exec (fun books event => some (step 2 books event)) (opened periodicDb) acrossReset = some before ∧
      before.db.subs.lookup 2 = some row ∧ row.amountUsed = 50 ∧ before.recorded = 50 ∧
      Runs.exec (fun books event => some (step 2 books event)) (opened periodicDb)
        (acrossReset ++ [eventAt 1170 (.refund "first")]) = some after ∧
      after.db.subs.lookup 2 = some row' ∧ row'.amountUsed = 0 ∧ after.recorded = 50 :=
  ⟨periodicSub_created, _, _, _, _, rfl, rfl, by decide, by decide, rfl, rfl, by decide, by decide⟩

end Tokengine.Billing.Periods
