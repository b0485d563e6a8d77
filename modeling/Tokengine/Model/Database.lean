import Tokengine.Lib.Program
import Tokengine.Lib.Table

/-! The tables behind the billing code and the statements that reach them. Every statement
may be refused by the driver: the world carries what the driver will answer, so that one
model covers the runs in which all statements succeed and those in which some fail. -/

namespace Tokengine.Model.Database
open Program List

structure User where
  (id quota usedQuota requestCount : Int)
  deriving DecidableEq

structure Token where
  id : Int
  key : String
  (remainQuota usedQuota : Int)
  unlimitedQuota : Bool
  /-- The subscription a TokenPlan token belongs to; 0 for an ordinary token. -/
  subscriptionId : Int
  deriving DecidableEq

structure Channel where
  (id usedQuota : Int)
  deriving DecidableEq

inductive PlanType where
  | quota
  | tokens
  deriving DecidableEq

structure SubscriptionPlan where
  id : Int
  (title quotaResetPeriod : String)
  quotaResetCustomSeconds : Int
  planType : PlanType
  deriving DecidableEq

inductive SubscriptionStatus where
  | active
  | expired
  | cancelled
  deriving DecidableEq

structure UserSubscription where
  (id userId planId : Int)
  /-- 0 means unlimited. -/
  (amountTotal amountUsed startTime endTime : Int)
  status : SubscriptionStatus
  (lastResetTime nextResetTime tokensUsed : Int)
  /-- 0 means unlimited. -/
  tokensLimit : Int
  /-- Comma-separated model names; empty allows every model. -/
  applicableModels : String
  deriving DecidableEq

inductive RecordStatus where
  | consumed
  | refunded
  deriving DecidableEq

structure SubscriptionPreConsumeRecord where
  requestId : String
  (userId userSubscriptionId preConsumed : Int)
  status : RecordStatus
  deriving DecidableEq

inductive BatchUpdateType where
  | userQuota
  | tokenQuota
  | usedQuota
  | channelUsedQuota
  | requestCount
  deriving DecidableEq

structure Db where
  users : Table User.id
  tokens : Table Token.id
  channels : Table Channel.id
  plans : Table SubscriptionPlan.id
  subs : Table UserSubscription.id
  records : Table SubscriptionPreConsumeRecord.requestId
  /-- Amounts collected in batch mode and not yet written to the tables. -/
  batchUpdateStores : BatchUpdateType → Int → Int

structure Env where
  /-- `GetDBTimestamp` and `common.GetTimestamp`, in seconds. -/
  now : Int
  /-- Offset of the local time zone from UTC, in seconds. -/
  utcOffset : Int
  /-- `common.GetTrustQuota()`. -/
  trustQuota : Int
  (batchUpdateEnabled redisEnabled : Bool)
  /-- What Redis answers for a user's quota and for a token key; a miss falls through to the table. -/
  cachedUserQuota : Int → Option Int
  cachedToken : String → Option Token
  /-- `logger.FormatQuota`, which depends on the display settings. -/
  formatQuota : Int → String

/-- The tables, and the errors the driver will report for the reads and the writes to come.
An exhausted list means that no further statement fails. -/
structure World where
  env : Env
  db : Db
  (readFaults writeFaults : List (Option String))

def healthy (env : Env) (db : Db) : World := ⟨env, db, [], []⟩

def plainEnv : Env where
  now := 1000
  utcOffset := 0
  trustQuota := 5000000
  batchUpdateEnabled := false
  redisEnabled := false
  cachedUserQuota _ := none
  cachedToken _ := none
  formatQuota quota := toString quota

def emptyDb : Db where
  users := .empty
  tokens := .empty
  channels := .empty
  plans := .empty
  subs := .empty
  records := .empty
  batchUpdateStores _ _ := 0

def recordNotFound : String := "record not found"

def dbRead {α : Type} (query : Db → Except String α) : Program World String α := fun world =>
  match world.readFaults with
  | some fault :: rest => (.error fault, { world with readFaults := rest })
  | none :: rest => (query world.db, { world with readFaults := rest })
  | [] => (query world.db, world)

def dbWrite (change : Db → Db) : Program World String Unit := fun world =>
  match world.writeFaults with
  | some fault :: rest => (.error fault, { world with writeFaults := rest })
  | none :: rest => (.ok (), { world with db := change world.db, writeFaults := rest })
  | [] => (.ok (), { world with db := change world.db })

structure Tx where
  world : World
  pending : Db → Db

def Tx.view (tx : Tx) : Db := tx.pending tx.world.db

/-- Run a program on the global handle while a transaction is open: it does not see the
pending writes, and it is not undone with them. -/
def onGlobal {α : Type} (program : Program World String α) : Program Tx String α :=
  zoom Tx.world (fun world tx => { tx with world }) program

def txRead {α : Type} (query : Db → Except String α) : Program Tx String α := fun tx =>
  onGlobal (dbRead (fun _ => query tx.view)) tx

/-- A statement of a transaction; `accepts` is what its unique indexes demand of the tables. -/
def txWrite (change : Db → Db) (accepts : Db → Except String Unit) : Program Tx String Unit := fun tx =>
  match tx.world.writeFaults with
  | some fault :: rest => (.error fault, { tx with world := { tx.world with writeFaults := rest } })
  | faults => (accepts tx.view, ⟨{ tx.world with writeFaults := faults.tail },
      match accepts tx.view with
      | .ok () => change ∘ tx.pending
      | .error _ => tx.pending⟩)

/-- `DB.Transaction`: an error of the body or of the commit drops the pending writes. -/
def transaction {α : Type} (body : Program Tx String α) : Program World String α := fun world =>
  match body ⟨world, id⟩ with
  | (.error e, tx) => (.error e, tx.world)
  | (.ok a, tx) =>
    match dbWrite tx.pending tx.world with
    | (.error e, closed) => (.error e, closed)
    | (.ok (), closed) => (.ok a, closed)

def getEnv {σ ε : Type} (world : σ → World) : Program σ ε Env := fun s => (.ok (world s).env, s)

theorem getEnv_bind {σ ε α : Type} (world : σ → World) (f : Env → Program σ ε α) (s : σ) :
    (getEnv world >>= f) s = f (world s).env s := rfl

/-- The world after a call that left the tables as `db`: the settings are the same, and
statements that could not fail before cannot fail now. -/
structure Leads (world : World) (db : Db) (after : World) : Prop where
  db_eq : after.db = db
  env_eq : after.env = world.env
  reads : world.readFaults = [] → after.readFaults = []
  writes : world.writeFaults = [] → after.writeFaults = []

theorem Leads.refl (world : World) : Leads world world.db world := ⟨rfl, rfl, id, id⟩

variable {first second third after : World}

theorem Leads.trans {middle last : Db} (start : Leads first middle second) (rest : Leads second last third) :
    Leads first last third :=
  ⟨rest.db_eq, rest.env_eq.trans start.env_eq, rest.reads ∘ start.reads, rest.writes ∘ start.writes⟩

abbrev Idle (world after : World) : Prop := Leads world world.db after

theorem Leads.still {db : Db} (start : Leads first db second) (rest : Idle second third) : Leads first db third :=
  ⟨rest.db_eq.trans start.db_eq, rest.env_eq.trans start.env_eq, rest.reads ∘ start.reads,
    rest.writes ∘ start.writes⟩

theorem Idle.then (last : Db → Db) (start : Idle first second) (rest : Leads second (last second.db) third) :
    Leads first (last first.db) third := by
  have same := start.db_eq
  rw [same] at rest
  exact Leads.trans start rest

theorem Idle.trans (start : Idle first second) (rest : Idle second third) : Idle first third := Idle.then id start rest

instance : IsPreorder World Idle where
  refl := Leads.refl
  trans _ _ _ := Idle.trans

theorem Leads.healthy_eq {env : Env} {before db : Db}
    (led : Leads (healthy env before) db after) : after = healthy env db := by
  obtain ⟨rfl, same, reads, writes⟩ := led
  cases after
  simp only [healthy, forall_const, World.mk.injEq, true_and] at same reads writes ⊢
  exact ⟨same, reads, writes⟩

variable {change pending : Db → Db}

variable {α : Type}

theorem dbRead_idle (query : Db → Except String α) (world : World) : Idle world (dbRead query world).2 := by
  unfold dbRead
  split
  iterate 2 next found => exact ⟨rfl, rfl, by simp [found], id⟩
  exact Leads.refl world

variable {a : α} {query : Db → Except String α}

theorem dbRead_ok {world : World} (run : dbRead query world = (.ok a, after)) :
    query world.db = .ok a ∧ Idle world after := by
  have idle := dbRead_idle query world
  rw [run] at idle
  refine ⟨?_, idle⟩
  unfold dbRead at run
  split at run
  · cases run
  all_goals exact congrArg Prod.fst run

@[simp]
theorem dbRead_healthy (query : Db → Except String α) (env : Env) (db : Db) :
    dbRead query (healthy env db) = (query db, healthy env db) := rfl

theorem dbWrite_ok {world : World} (run : dbWrite change world = (.ok (), after)) :
    Leads world (change world.db) after := by
  unfold dbWrite at run
  split at run
  · cases run
  next found =>
    cases run
    exact ⟨rfl, rfl, id, by simp [found]⟩
  · cases run
    exact ⟨rfl, rfl, id, id⟩

variable {e : String}

theorem dbWrite_error {world : World} (run : dbWrite change world = (.error e, after)) :
    Idle world after ∧ world.writeFaults ≠ [] := by
  unfold dbWrite at run
  split at run
  next found =>
    cases run
    exact ⟨⟨rfl, rfl, id, by simp [found]⟩, by simp [found]⟩
  · cases run
  · cases run

@[simp]
theorem dbWrite_healthy (change : Db → Db) (env : Env) (db : Db) :
    dbWrite change (healthy env db) = (.ok (), healthy env (change db)) := rfl

abbrev Confined (tx after : Tx) : Prop := Idle tx.world after.world

instance : IsPreorder Tx Confined where
  refl tx := Leads.refl tx.world
  trans _ _ _ := Idle.trans

theorem getEnv_idle : Keeps Idle (getEnv (fun world => world) : Program World String Env) := Leads.refl

theorem txRead_confined (query : Db → Except String α) : Keeps Confined (txRead query) :=
  fun tx => dbRead_idle (fun _ => query tx.view) tx.world

structure Shows (tx : Tx) (db : Db) (after : Tx) : Prop where
  confined : Confined tx after
  view_eq : after.view = db

theorem Shows.refl (tx : Tx) : Shows tx tx.view tx := ⟨Leads.refl tx.world, rfl⟩

theorem Shows.trans {first second third : Tx} {middle last : Db} (start : Shows first middle second)
    (rest : Shows second last third) : Shows first last third :=
  ⟨Idle.trans start.confined rest.confined, rest.view_eq⟩

variable {tx : Tx} {accepts : Db → Except String Unit}

theorem txRead_ok {after : Tx} (run : txRead query tx = (.ok a, after)) :
    query tx.view = .ok a ∧ Shows tx tx.view after := by
  have val : (dbRead (fun _ => query tx.view) tx.world).1 = .ok a := congrArg Prod.fst run
  have state : { tx with world := (dbRead (fun _ => query tx.view) tx.world).2 } = after :=
    congrArg Prod.snd run
  subst state
  obtain ⟨found, idle⟩ := dbRead_ok (Prod.ext val rfl)
  exact ⟨found, idle, congrArg tx.pending idle.db_eq⟩

theorem txWrite_confined (change : Db → Db) (accepts : Db → Except String Unit) :
    Keeps Confined (txWrite change accepts) := by
  intro tx
  unfold txWrite
  split
  next found => exact ⟨rfl, rfl, id, by simp [found]⟩
  · exact ⟨rfl, rfl, id, by simp +contextual⟩

theorem txWrite_ok {after : Tx} (run : txWrite change accepts tx = (.ok (), after)) :
    Shows tx (change tx.view) after := by
  have confined := txWrite_confined change accepts tx
  rw [run] at confined
  unfold txWrite at run
  split at run
  · cases run
  have accepted : accepts tx.view = .ok () := congrArg Prod.fst run
  rw [accepted] at run
  cases run
  exact ⟨confined, rfl⟩

/-- A refused write leaves no trace. -/
theorem txWrite_error {after : Tx} (run : txWrite change accepts tx = (.error e, after)) : Shows tx tx.view after := by
  have confined := txWrite_confined change accepts tx
  rw [run] at confined
  unfold txWrite at run
  split at run
  · cases run
    exact ⟨confined, rfl⟩
  · have refused : accepts tx.view = .error e := congrArg Prod.fst run
    rw [refused] at run
    cases run
    exact ⟨confined, rfl⟩

theorem txWrite_pending (change : Db → Db) (accepts : Db → Except String Unit) (tx : Tx) :
    (txWrite change accepts tx).2.pending = tx.pending ∨ (txWrite change accepts tx).2.pending = change ∘ tx.pending := by
  unfold txWrite
  split
  · exact Or.inl rfl
  cases accepts tx.view with
  | ok _ => exact Or.inr rfl
  | error _ => exact Or.inl rfl

@[simp]
theorem txRead_healthy (query : Db → Except String α) (env : Env) (db : Db) (pending : Db → Db) :
    txRead query ⟨healthy env db, pending⟩ = (query (pending db), ⟨healthy env db, pending⟩) := rfl

variable {env : Env} {db : Db}

theorem txWrite_healthy (accepted : accepts (pending db) = .ok ()) :
    txWrite change accepts ⟨healthy env db, pending⟩ = (.ok (), ⟨healthy env db, change ∘ pending⟩) := by
  simp only [txWrite, healthy, Tx.view, accepted, tail_nil]

variable {body : Program Tx String α}

theorem transaction_ok {world : World} (run : transaction body world = (.ok a, after)) :
    ∃ tx, body ⟨world, id⟩ = (.ok a, tx) ∧ ∀ db, Shows ⟨world, id⟩ db tx → Leads world db after := by
  unfold transaction at run
  split at run
  · cases run
  next tx ended =>
  split at run
  · cases run
  next committed =>
  cases run
  refine ⟨tx, ended, ?_⟩
  rintro _ ⟨confined, rfl⟩
  exact Leads.trans confined (dbWrite_ok committed)

theorem transaction_error {world : World} (confined : Keeps Confined body)
    (run : transaction body world = (.error e, after)) : Idle world after := by
  have moved := confined ⟨world, id⟩
  unfold transaction at run
  split at run
  next ended =>
    rw [ended] at moved
    cases run
    exact moved
  next ended =>
  rw [ended] at moved
  split at run
  next refused =>
    cases run
    exact Idle.trans moved (dbWrite_error refused).1
  · cases run

theorem transaction_ends (body : Program Tx String α) (world : World) : ∃ res tx, body ⟨world, id⟩ = (res, tx) ∧
      (Idle tx.world (transaction body world).2 ∨ Leads tx.world tx.view (transaction body world).2) := by
  refine ⟨_, _, rfl, ?_⟩
  unfold transaction
  split
  next tx ended =>
    rw [ended]
    exact Or.inl (Leads.refl tx.world)
  next ended =>
  rw [ended]
  split
  next refused => exact Or.inl (dbWrite_error refused).1
  next committed => exact Or.inr (dbWrite_ok committed)

theorem transaction_healthy {db' : Db} (run : body ⟨healthy env db, id⟩ = (.ok a, ⟨healthy env db', pending⟩)) :
    transaction body (healthy env db) = (.ok a, healthy env (pending db')) := by
  simp only [transaction, run, dbWrite_healthy]

/-! What a transaction does to a property of the tables. -/

/-- The committed tables satisfy `base`, the tables as the transaction sees them `seen`. -/
structure Within (base seen : Db → Prop) (tx : Tx) : Prop where
  committed : base tx.world.db
  view : seen tx.view

section Within

variable {base seen later : Db → Prop}

theorem txRead_answers (query : Db → Except String α) :
    Ensures (Within base seen) (txRead query) (fun a => Within base fun db => seen db ∧ query db = .ok a)
      (Within base seen) := by
  intro tx within
  have idle := dbRead_idle (fun _ => query tx.view) tx.world
  have same : (txRead query tx).2.view = tx.view := by
    change tx.pending (dbRead (fun _ => query tx.view) tx.world).2.db = tx.view
    rw [idle.db_eq, Tx.view]
  have committed : base (txRead query tx).2.world.db := idle.db_eq ▸ within.committed
  refine ⟨fun a after run => ?_, fun e after run => ?_⟩
  · rw [run] at same committed
    exact ⟨committed, same ▸ ⟨within.view, (txRead_ok run).1⟩⟩
  · rw [run] at same committed
    exact ⟨committed, same ▸ within.view⟩

theorem txRead_ensures {good : α → Prop} (answers : ∀ db a, seen db → query db = .ok a → good a) :
    Ensures (Within base seen) (txRead query) (fun a tx => Within base seen tx ∧ good a) (Within base seen) :=
  ensures_mono (txRead_answers query) (fun _ start => start)
    (fun a _ ends => ⟨⟨ends.committed, ends.view.1⟩, answers _ a ends.view.1 ends.view.2⟩) fun _ ends => ends

variable (query)

theorem txRead_attempt {ε : Type} {fails : Tx → Prop} :
    Ensures (Within base seen) (attempt (txRead query) : Program Tx ε (Except String α))
      (fun res => Within base fun db => seen db ∧ ∀ a, res = .ok a → query db = .ok a) fails := by
  refine ensures_attempt (ensures_mono (txRead_answers query) (fun _ start => start) (fun a _ ends => ?_) fun _ ends _ => ?_)
  · refine ⟨ends.committed, ends.view.1, fun b same => ?_⟩
    cases same
    exact ends.view.2
  · exact ⟨ends.committed, ends.view, nofun⟩

theorem txRead_preserves : Preserves (Within base seen) (txRead query) := by
  have reads : Ensures (Within base seen) (txRead query) (fun a tx => Within base seen tx ∧ True) (Within base seen) :=
    txRead_ensures fun _ _ _ _ => trivial
  exact ensures_mono reads (fun _ start => start) (fun _ _ ends => ends.1) fun _ ends => ends

theorem txWrite_ensures (changes : ∀ db, seen db → later (change db)) :
    Ensures (Within base seen) (txWrite change accepts) (fun _ => Within base later) (Within base seen) := by
  intro tx within
  refine ⟨fun _ after run => ?_, fun e after run => ?_⟩
  · have shows := txWrite_ok run
    exact ⟨shows.confined.db_eq ▸ within.committed, shows.view_eq ▸ changes _ within.view⟩
  · have shows := txWrite_error run
    exact ⟨shows.confined.db_eq ▸ within.committed, shows.view_eq ▸ within.view⟩

theorem dbRead_preserves : Preserves (fun world => base world.db) (dbRead query) :=
  preserves_iff.mpr fun world holds => (dbRead_idle query world).db_eq ▸ holds

/-- A transaction either commits what it has made of the tables or leaves the committed ones. -/
theorem transaction_ensures {body : Program Tx String α} {pre : World → Prop} {opens : Tx → Prop}
    (start : ∀ world, pre world → opens ⟨world, id⟩)
    (bodyEnsures : Ensures opens body (fun _ => Within base later) (fun tx => base tx.world.db)) :
    Ensures pre (transaction body) (fun _ world => later world.db) (fun world => base world.db) := by
  intro world holds
  obtain ⟨returns, ends⟩ := bodyEnsures ⟨world, id⟩ (start world holds)
  unfold transaction
  split
  next e _ ran =>
    refine ⟨fun _ _ run => ?_, fun _ _ run => ?_⟩
    · cases run
    · cases run
      exact ends e _ ran
  next a tx ran =>
  have within := returns a tx ran
  split
  next refused =>
    refine ⟨fun _ _ run => ?_, fun _ _ run => ?_⟩
    · cases run
    · cases run
      exact (dbWrite_error refused).1.db_eq ▸ within.committed
  next committed =>
  refine ⟨fun _ _ run => ?_, fun _ _ run => ?_⟩
  · cases run
    exact (dbWrite_ok committed).db_eq ▸ within.view
  · cases run

end Within

/-! What each statement meets, when the answers of the driver are given. -/

/-- The error that the driver reports for the statement after `count` others. -/
def fault (faults : List (Option String)) (count : Nat) : Option String := faults[count]?.join

theorem fault_drop (faults : List (Option String)) (passed count : Nat) :
    fault (faults.drop passed) count = fault faults (passed + count) := by
  rw [fault, getElem?_drop]
  rfl

def World.skip (world : World) (reads writes : Nat) : World := { world with
  readFaults := world.readFaults.drop reads
  writeFaults := world.writeFaults.drop writes }

theorem World.skip_skip (world : World) (reads writes reads' writes' : Nat) :
    (world.skip reads writes).skip reads' writes' = world.skip (reads + reads') (writes + writes') := by
  simp [World.skip]

def World.put (world : World) (db : Db) : World := { world with db }

theorem World.put_skip (world : World) (db : Db) (reads writes : Nat) :
    (world.put db).skip reads writes = (world.skip reads writes).put db := rfl

section Driver

variable {world : World} (query) (change)

theorem dbRead_fault (faulty : fault world.readFaults 0 = some e) : dbRead query world = (.error e, world.skip 1 0) := by
  rcases world with ⟨env, db, _ | ⟨_ | first, rest⟩, writes⟩
  · cases faulty
  · cases faulty
  · cases faulty
    rfl

theorem dbRead_clear (clear : fault world.readFaults 0 = none) : dbRead query world = (query world.db, world.skip 1 0) := by
  rcases world with ⟨env, db, _ | ⟨_ | first, rest⟩, writes⟩
  · rfl
  · rfl
  · cases clear

theorem dbWrite_fault (faulty : fault world.writeFaults 0 = some e) :
    dbWrite change world = (.error e, world.skip 0 1) := by
  rcases world with ⟨env, db, reads, _ | ⟨_ | first, rest⟩⟩
  · cases faulty
  · cases faulty
  · cases faulty
    rfl

theorem dbWrite_clear (clear : fault world.writeFaults 0 = none) :
    dbWrite change world = (.ok (), (world.skip 0 1).put (change world.db)) := by
  rcases world with ⟨env, db, reads, _ | ⟨_ | first, rest⟩⟩
  · rfl
  · rfl
  · cases clear

theorem txRead_fault (pending : Db → Db) (faulty : fault world.readFaults 0 = some e) :
    txRead query ⟨world, pending⟩ = (.error e, ⟨world.skip 1 0, pending⟩) := by
  rw [txRead, onGlobal, zoom_at, dbRead_fault _ faulty]

theorem txRead_clear (pending : Db → Db) (clear : fault world.readFaults 0 = none) :
    txRead query ⟨world, pending⟩ = (query (pending world.db), ⟨world.skip 1 0, pending⟩) := by
  rw [txRead, onGlobal, zoom_at, dbRead_clear _ clear]
  rfl

theorem txWrite_fault (accepts : Db → Except String Unit) (pending : Db → Db)
    (faulty : fault world.writeFaults 0 = some e) :
    txWrite change accepts ⟨world, pending⟩ = (.error e, ⟨world.skip 0 1, pending⟩) := by
  rcases world with ⟨env, db, reads, _ | ⟨_ | first, rest⟩⟩
  · cases faulty
  · cases faulty
  · cases faulty
    rfl

theorem txWrite_clear (clear : fault world.writeFaults 0 = none) (accepted : accepts (pending world.db) = .ok ()) :
    txWrite change accepts ⟨world, pending⟩ = (.ok (), ⟨world.skip 0 1, change ∘ pending⟩) := by
  rcases world with ⟨env, db, reads, _ | ⟨_ | first, rest⟩⟩
  iterate 2
    · simp only [txWrite, Tx.view, accepted]
      rfl
  cases clear

end Driver

end Tokengine.Model.Database
