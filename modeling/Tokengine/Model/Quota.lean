import Tokengine.Model.Database

/-! The balances of users, API tokens and channels. In batch mode a change is collected
in memory and written to the tables later, so a balance is the stored column plus what is pending. -/

namespace Tokengine.Model.Quota
open Program Database Table Option

def addNewRecord (kind : BatchUpdateType) (id val : Int) (db : Db) : Db :=
  { db with batchUpdateStores := fun otherKind other =>
      if otherKind = kind ∧ other = id then db.batchUpdateStores otherKind other + val
      else db.batchUpdateStores otherKind other }

def negativeQuota : String := "quota 不能为负数！"

def applyOrCollect (direct : Bool) (kind : BatchUpdateType) (id val : Int) (row : Db → Db) :
    Program World String Unit := do
  let env ← getEnv (σ := World) (fun world => world)
  if !direct && env.batchUpdateEnabled then
    modify fun world => { world with db := addNewRecord kind id val world.db }
  else dbWrite row

def addUserQuota (quota : Int) (user : User) : User := { user with quota := user.quota + quota }

def increaseUserQuotaRow (id quota : Int) (db : Db) : Db :=
  { db with users := db.users.update id (addUserQuota quota) }

def decreaseUserQuotaRow (id quota : Int) (db : Db) : Db :=
  { db with users := db.users.update id fun user => { user with quota := user.quota - quota } }

def increaseUserQuota (id quota : Int) (direct : Bool) : Program World String Unit :=
  if quota < 0 then throw negativeQuota
  else applyOrCollect direct .userQuota id quota (increaseUserQuotaRow id quota)

def decreaseUserQuota (id quota : Int) (direct : Bool) : Program World String Unit :=
  if quota < 0 then throw negativeQuota
  else applyOrCollect direct .userQuota id (-quota) (decreaseUserQuotaRow id quota)

def addTokenQuota (quota : Int) (token : Token) : Token :=
  { token with remainQuota := token.remainQuota + quota, usedQuota := token.usedQuota - quota }

def increaseTokenQuotaRow (id quota : Int) (db : Db) : Db :=
  { db with tokens := db.tokens.update id (addTokenQuota quota) }

def decreaseTokenQuotaRow (id quota : Int) (db : Db) : Db :=
  { db with tokens := db.tokens.update id fun token =>
      { token with remainQuota := token.remainQuota - quota, usedQuota := token.usedQuota + quota } }

def increaseTokenQuota (id quota : Int) : Program World String Unit :=
  if quota < 0 then throw negativeQuota
  else applyOrCollect false .tokenQuota id quota (increaseTokenQuotaRow id quota)

def decreaseTokenQuota (id quota : Int) : Program World String Unit :=
  if quota < 0 then throw negativeQuota
  else applyOrCollect false .tokenQuota id (-quota) (decreaseTokenQuotaRow id quota)

def updateUserUsedQuotaRow (id quota : Int) (db : Db) : Db :=
  { db with users := db.users.update id fun user => { user with usedQuota := user.usedQuota + quota } }

def updateChannelUsedQuotaRow (id quota : Int) (db : Db) : Db :=
  { db with channels := db.channels.update id fun ch =>
      { ch with usedQuota := ch.usedQuota + quota } }

def updateUserUsedQuota (id quota : Int) : Program World String Unit :=
  logged (applyOrCollect false .usedQuota id quota (updateUserUsedQuotaRow id quota))

def updateChannelUsedQuota (id quota : Int) : Program World String Unit :=
  logged (applyOrCollect false .channelUsedQuota id quota (updateChannelUsedQuotaRow id quota))

def updateUserUsedQuotaAndRequestCountRow (id quota count : Int) (db : Db) : Db :=
  { db with users := db.users.update id fun user =>
      { user with usedQuota := user.usedQuota + quota, requestCount := user.requestCount + count } }

def updateUserUsedQuotaAndRequestCount (id quota : Int) : Program World String Unit := do
  let env ← getEnv (σ := World) (fun world => world)
  if env.batchUpdateEnabled then
    modify fun world => { world with
      db := addNewRecord .requestCount id 1 (addNewRecord .usedQuota id quota world.db) }
  else logged (dbWrite (updateUserUsedQuotaAndRequestCountRow id quota 1))

def getUserQuota (id : Int) : Program World String Int := do
  let env ← getEnv (σ := World) (fun world => world)
  match (if env.redisEnabled then env.cachedUserQuota id else none) with
  | some quota => pure quota
  | none => dbRead fun db => .ok (((db.users.lookup id).map User.quota).getD 0)

def getTokenByKey (key : String) : Program World String Token := do
  let env ← getEnv (σ := World) (fun world => world)
  match (if env.redisEnabled then env.cachedToken key else none) with
  | some token => pure token
  | none => dbRead fun db =>
      match db.tokens.rows.find? (fun token => decide (token.key = key)) with
      | some token => .ok token
      | none => .error recordNotFound

def getTokenById (id : Int) : Program World String Token :=
  if id = 0 then throw "id 为空！"
  else dbRead fun db =>
    match db.tokens.lookup id with
    | some token => .ok token
    | none => .error recordNotFound

/-! The effect of a change of balance, whichever way it is stored. -/

def changeUserQuota (collect : Bool) (id val : Int) (db : Db) : Db :=
  if collect then addNewRecord .userQuota id val db else increaseUserQuotaRow id val db

def changeTokenQuota (collect : Bool) (id val : Int) (db : Db) : Db :=
  if collect then addNewRecord .tokenQuota id val db else increaseTokenQuotaRow id val db

variable (id : Int) (collect : Bool)

theorem decreaseUserQuotaRow_eq (quota : Int) : decreaseUserQuotaRow id quota = increaseUserQuotaRow id (-quota) := by
  funext db
  unfold decreaseUserQuotaRow increaseUserQuotaRow addUserQuota
  simp only [Int.sub_eq_add_neg]

theorem decreaseTokenQuotaRow_eq (quota : Int) : decreaseTokenQuotaRow id quota = increaseTokenQuotaRow id (-quota) := by
  funext db
  unfold decreaseTokenQuotaRow increaseTokenQuotaRow addTokenQuota
  simp only [Int.sub_eq_add_neg, Int.neg_neg]

section Effects

variable {direct : Bool} {kind : BatchUpdateType} {id val quota : Int} {row : Db → Db} {world after : World}

theorem applyOrCollect_ok (run : applyOrCollect direct kind id val row world = (.ok (), after)) :
    Leads world (if !direct && world.env.batchUpdateEnabled then addNewRecord kind id val world.db
      else row world.db) after := by
  change (if !direct && world.env.batchUpdateEnabled then _ else dbWrite row) world = _ at run
  split at run
  next collects =>
    cases run
    simp only [collects, ↓reduceIte]
    exact ⟨rfl, rfl, fun h => h, fun h => h⟩
  next writes =>
    simp only [writes]
    exact dbWrite_ok run

variable {e : String}

theorem applyOrCollect_error (run : applyOrCollect direct kind id val row world = (.error e, after)) :
    Idle world after ∧ world.writeFaults ≠ [] := by
  change (if !direct && world.env.batchUpdateEnabled then _ else dbWrite row) world = _ at run
  split at run
  · cases run
  · exact dbWrite_error run

/-! The four changes of a balance all refuse a negative amount first. -/

/-- A run makes one change of the tables, or fails and leaves them alone. -/
structure Changes (change : Env → Db → Db) (program : Program World String Unit) : Prop where
  ok : ∀ {world after}, program world = (.ok (), after) → Leads world (change world.env world.db) after
  error : ∀ {world after e}, program world = (.error e, after) → Idle world after

theorem checked_changes {refusal : String} : Changes (fun env db => if env.batchUpdateEnabled then
      addNewRecord kind id val db else row db)
    (if quota < 0 then throw refusal else applyOrCollect false kind id val row) where
  ok run := by
    have led := applyOrCollect_ok (guard_ok run).2
    exact led
  error run := by
    split at run
    · cases run
      exact Leads.refl _
    · exact (applyOrCollect_error run).1

variable (env : Env) (db : Db)

theorem applyOrCollect_healthy : applyOrCollect direct kind id val row (healthy env db) =
      (.ok (), healthy env (if !direct && env.batchUpdateEnabled then addNewRecord kind id val db else row db)) := by
  change (if !direct && env.batchUpdateEnabled then _ else dbWrite row) (healthy env db) = _
  split <;> rfl

theorem increaseUserQuota_changes : Changes (fun env => changeUserQuota env.batchUpdateEnabled id quota)
    (increaseUserQuota id quota false) := checked_changes

theorem decreaseUserQuota_changes : Changes (fun env => changeUserQuota env.batchUpdateEnabled id (-quota))
    (decreaseUserQuota id quota false) := by
  exact checked_changes

theorem increaseTokenQuota_changes : Changes (fun env => changeTokenQuota env.batchUpdateEnabled id quota)
    (increaseTokenQuota id quota) := checked_changes

theorem decreaseTokenQuota_changes : Changes (fun env => changeTokenQuota env.batchUpdateEnabled id (-quota))
    (decreaseTokenQuota id quota) := by
  rw [decreaseTokenQuota, decreaseTokenQuotaRow_eq]
  exact checked_changes

theorem increaseTokenQuota_faults (nonneg : 0 ≤ quota) (run : increaseTokenQuota id quota world = (.error e, after)) :
    world.writeFaults ≠ [] := by
  rw [increaseTokenQuota, if_neg (Int.not_lt.mpr nonneg)] at run
  exact (applyOrCollect_error run).2

theorem increaseUserQuota_healthy (nonneg : 0 ≤ quota) : increaseUserQuota id quota false (healthy env db) =
      (.ok (), healthy env (changeUserQuota env.batchUpdateEnabled id quota db)) := by
  rw [increaseUserQuota, if_neg (Int.not_lt.mpr nonneg), applyOrCollect_healthy]
  rfl

theorem decreaseUserQuota_healthy (nonneg : 0 ≤ quota) : decreaseUserQuota id quota false (healthy env db) =
      (.ok (), healthy env (changeUserQuota env.batchUpdateEnabled id (-quota) db)) := by
  rw [decreaseUserQuota, if_neg (Int.not_lt.mpr nonneg), applyOrCollect_healthy, decreaseUserQuotaRow_eq]
  rfl

theorem increaseTokenQuota_healthy (nonneg : 0 ≤ quota) : increaseTokenQuota id quota (healthy env db) =
      (.ok (), healthy env (changeTokenQuota env.batchUpdateEnabled id quota db)) := by
  rw [increaseTokenQuota, if_neg (Int.not_lt.mpr nonneg), applyOrCollect_healthy]
  rfl

theorem decreaseTokenQuota_healthy (nonneg : 0 ≤ quota) : decreaseTokenQuota id quota (healthy env db) =
      (.ok (), healthy env (changeTokenQuota env.batchUpdateEnabled id (-quota) db)) := by
  rw [decreaseTokenQuota, if_neg (Int.not_lt.mpr nonneg), applyOrCollect_healthy, decreaseTokenQuotaRow_eq]
  rfl

theorem getUserQuota_idle (id : Int) : Keeps Idle (getUserQuota id) := by
  apply keeps_bind getEnv_idle
  intro env
  split
  · exact Leads.refl
  · exact dbRead_idle _

theorem getTokenByKey_idle (key : String) : Keeps Idle (getTokenByKey key) := by
  apply keeps_bind getEnv_idle
  intro env
  split
  · exact Leads.refl
  · exact dbRead_idle _

end Effects

/-! Balances. -/

def userBalance (db : Db) (id : Int) : Int :=
  db.users.column User.quota id + db.batchUpdateStores .userQuota id

def tokenRemain (db : Db) (id : Int) : Int :=
  db.tokens.column Token.remainQuota id + db.batchUpdateStores .tokenQuota id

def tokenUsed (db : Db) (id : Int) : Int :=
  db.tokens.column Token.usedQuota id - db.batchUpdateStores .tokenQuota id

variable (kind : BatchUpdateType) (id val other : Int) {db : Db}

theorem collected (db : Db) : (addNewRecord kind id val db).batchUpdateStores kind other =
      db.batchUpdateStores kind other + if other = id then val else 0 := by
  by_cases same : other = id <;> simp [addNewRecord, same]

theorem userBalance_change (present : (db.users.lookup id).isSome) :
    userBalance (changeUserQuota collect id val db) other = userBalance db other + if other = id then val else 0 := by
  cases collect with
  | true =>
    change db.users.column User.quota other + (addNewRecord .userQuota id val db).batchUpdateStores _ other = _
    rw [collected, userBalance, Int.add_assoc]
  | false =>
    change (db.users.update id (addUserQuota val)).column User.quota other + db.batchUpdateStores _ other = _
    rw [column_update (addUserQuota val) (fun _ => rfl) (fun _ => rfl) present, userBalance]
    omega

theorem tokenRemain_change (present : (db.tokens.lookup id).isSome) :
    tokenRemain (changeTokenQuota collect id val db) other = tokenRemain db other + if other = id then val else 0 := by
  cases collect with
  | true =>
    change db.tokens.column Token.remainQuota other +
      (addNewRecord .tokenQuota id val db).batchUpdateStores _ other = _
    rw [collected, tokenRemain, Int.add_assoc]
  | false =>
    change (db.tokens.update id (addTokenQuota val)).column Token.remainQuota other + db.batchUpdateStores _ other = _
    rw [column_update (addTokenQuota val) (fun _ => rfl) (fun _ => rfl) present, tokenRemain]
    omega

theorem tokenUsed_change (present : (db.tokens.lookup id).isSome) :
    tokenUsed (changeTokenQuota collect id val db) other = tokenUsed db other + if other = id then -val else 0 := by
  cases collect with
  | true =>
    change db.tokens.column Token.usedQuota other -
      (addNewRecord .tokenQuota id val db).batchUpdateStores _ other = _
    rw [collected, tokenUsed]
    split <;> omega
  | false =>
    change (db.tokens.update id (addTokenQuota val)).column Token.usedQuota other - db.batchUpdateStores _ other = _
    rw [column_update (addTokenQuota val) (fun _ => rfl) (fun _ => Int.sub_eq_add_neg) present,
      tokenUsed]
    omega

/-! Changes of one balance add up, and changes of different balances do not see each other. -/

theorem addNewRecord_add (id first second : Int) (db : Db) :
    addNewRecord kind id second (addNewRecord kind id first db) = addNewRecord kind id (first + second) db := by
  simp only [addNewRecord, Db.mk.injEq, true_and]
  funext otherKind other
  by_cases same : otherKind = kind ∧ other = id
  · simp [same, Int.add_assoc]
  · simp [same]

theorem addNewRecord_zero (id : Int) (db : Db) : addNewRecord kind id 0 db = db := by
  simp [addNewRecord]

theorem changeUserQuota_add (id first second : Int) (db : Db) :
    changeUserQuota collect id second (changeUserQuota collect id first db) =
      changeUserQuota collect id (first + second) db := by
  cases collect with
  | true => exact addNewRecord_add _ _ _ _ _
  | false =>
    have together : addUserQuota second ∘ addUserQuota first = addUserQuota (first + second) := by
      funext user
      simp only [Function.comp, addUserQuota, Int.add_assoc]
    simp only [changeUserQuota, increaseUserQuotaRow, Bool.false_eq_true, ↓reduceIte]
    rw [update_update (addUserQuota first) (fun _ => rfl) _ _ (addUserQuota second) (fun _ => rfl), together]

theorem changeTokenQuota_add (id first second : Int) (db : Db) :
    changeTokenQuota collect id second (changeTokenQuota collect id first db) =
      changeTokenQuota collect id (first + second) db := by
  cases collect with
  | true => exact addNewRecord_add _ _ _ _ _
  | false =>
    have together : addTokenQuota second ∘ addTokenQuota first = addTokenQuota (first + second) := by
      funext token
      simp only [Function.comp, addTokenQuota, Token.mk.injEq, true_and, and_true]
      omega
    simp only [changeTokenQuota, increaseTokenQuotaRow, Bool.false_eq_true, ↓reduceIte]
    rw [update_update (addTokenQuota first) (fun _ => rfl) _ _ (addTokenQuota second) (fun _ => rfl), together]

theorem changeUserQuota_zero (user : Int) (db : Db) : changeUserQuota collect user 0 db = db := by
  cases collect with
  | true => exact addNewRecord_zero _ _ _
  | false =>
    have nothing : addUserQuota 0 = id := by
      funext row
      simp [addUserQuota, id]
    simp [changeUserQuota, increaseUserQuotaRow, ↓reduceIte, nothing, update_id]

theorem changeTokenQuota_zero (token : Int) (db : Db) : changeTokenQuota collect token 0 db = db := by
  cases collect with
  | true => exact addNewRecord_zero _ _ _
  | false =>
    have nothing : addTokenQuota 0 = id := by
      funext row
      simp [addTokenQuota, id]
    simp [changeTokenQuota, increaseTokenQuotaRow, ↓reduceIte, nothing, update_id]

theorem changeUserQuota_changeTokenQuota (user token first second : Int) (db : Db) :
    changeUserQuota collect user first (changeTokenQuota collect token second db) =
      changeTokenQuota collect token second (changeUserQuota collect user first db) := by
  cases collect with
  | true =>
    simp only [changeUserQuota, changeTokenQuota, addNewRecord, ↓reduceIte, Db.mk.injEq, true_and]
    funext kind other
    by_cases isUser : kind = .userQuota <;> simp [isUser]
  | false => rfl

/-! Statistics leave every balance alone. -/

structure SameBalances (before after : Db) : Prop where
  subs : after.subs = before.subs
  plans : after.plans = before.plans
  records : after.records = before.records
  tokens : after.tokens = before.tokens
  users : ∀ id, (after.users.lookup id).isSome = (before.users.lookup id).isSome
  user : ∀ id, userBalance after id = userBalance before id
  remain : ∀ id, tokenRemain after id = tokenRemain before id
  used : ∀ id, tokenUsed after id = tokenUsed before id

theorem SameBalances.refl (db : Db) : SameBalances db db :=
  ⟨rfl, rfl, rfl, rfl, fun _ => rfl, fun _ => rfl, fun _ => rfl, fun _ => rfl⟩

theorem SameBalances.trans {first second third : Db} (start : SameBalances first second)
    (rest : SameBalances second third) : SameBalances first third where
  subs := rest.subs.trans start.subs
  plans := rest.plans.trans start.plans
  records := rest.records.trans start.records
  tokens := rest.tokens.trans start.tokens
  users id := (rest.users id).trans (start.users id)
  user id := (rest.user id).trans (start.user id)
  remain id := (rest.remain id).trans (start.remain id)
  used id := (rest.used id).trans (start.used id)

variable {kind : BatchUpdateType}

theorem collect_sameBalances (notUser : kind ≠ .userQuota) (notToken : kind ≠ .tokenQuota)
    (id val : Int) (db : Db) : SameBalances db (addNewRecord kind id val db) where
  subs := rfl
  plans := rfl
  records := rfl
  tokens := rfl
  users _ := rfl
  user other := by simp [userBalance, addNewRecord, notUser.symm]
  remain other := by simp [tokenRemain, addNewRecord, notToken.symm]
  used other := by simp [tokenUsed, addNewRecord, notToken.symm]

theorem userRow_sameBalances (change : User → User) (keeps : ∀ user, (change user).id = user.id)
    (quota : ∀ user, (change user).quota = user.quota) (db : Db) :
    SameBalances db { db with users := db.users.update id change } where
  subs := rfl
  plans := rfl
  records := rfl
  tokens := rfl
  users := isSome_lookup_update change keeps db.users id
  user other := by
    simp only [userBalance, column]
    rw [map_lookup_update_same change keeps quota]
  remain _ := rfl
  used _ := rfl

abbrev KeepsBalances (before after : World) : Prop := SameBalances before.db after.db

instance : IsPreorder World KeepsBalances where
  refl world := SameBalances.refl world.db
  trans _ _ _ := SameBalances.trans

/-- A change that is collected or written, and in either form leaves the balances alone. -/
theorem applyOrCollect_keepsBalances {direct : Bool} {id val : Int} {row : Db → Db}
    (collects : ∀ db, SameBalances db (addNewRecord kind id val db)) (writes : ∀ db, SameBalances db (row db)) :
    Keeps KeepsBalances (applyOrCollect direct kind id val row) := by
  intro world
  rcases run : applyOrCollect direct kind id val row world with ⟨e | _, after⟩
  · have idle := (applyOrCollect_error run).1
    change SameBalances world.db after.db
    rw [idle.db_eq]
    exact SameBalances.refl world.db
  · have led := applyOrCollect_ok run
    change SameBalances world.db after.db
    rw [led.db_eq]
    split
    · exact collects world.db
    · exact writes world.db

theorem dbWrite_keepsBalances {change : Db → Db} (writes : ∀ db, SameBalances db (change db)) :
    Keeps KeepsBalances (dbWrite change) := by
  intro world
  rcases run : dbWrite change world with ⟨e | _, after⟩
  · change SameBalances world.db after.db
    rw [(dbWrite_error run).1.db_eq]
    exact SameBalances.refl world.db
  · change SameBalances world.db after.db
    rw [(dbWrite_ok run).db_eq]
    exact writes world.db

variable (quota : Int)

theorem updateUserUsedQuota_keepsBalances : Keeps KeepsBalances (updateUserUsedQuota id quota) := by
  apply applyOrCollect_keepsBalances
  · exact collect_sameBalances (by decide) (by decide) _ _
  · exact userRow_sameBalances id _ (fun _ => rfl) (fun _ => rfl)

theorem updateChannelUsedQuota_keepsBalances : Keeps KeepsBalances (updateChannelUsedQuota id quota) := by
  apply applyOrCollect_keepsBalances
  · exact collect_sameBalances (by decide) (by decide) _ _
  · intro db
    exact ⟨rfl, rfl, rfl, rfl, fun _ => rfl, fun _ => rfl, fun _ => rfl, fun _ => rfl⟩

theorem updateUserUsedQuotaAndRequestCount_keepsBalances :
    Keeps KeepsBalances (updateUserUsedQuotaAndRequestCount id quota) := by
  intro world
  rw [updateUserUsedQuotaAndRequestCount, getEnv_bind]
  split
  · refine (collect_sameBalances ?_ ?_ _ _ _).trans (collect_sameBalances ?_ ?_ _ _ _) <;> decide
  have writes : ∀ db, SameBalances db (updateUserUsedQuotaAndRequestCountRow id quota 1 db) :=
    userRow_sameBalances id _ (fun _ => rfl) (fun _ => rfl)
  exact dbWrite_keepsBalances writes world

def Counts (program : Program World String Unit) : Prop :=
  ∀ env db, ∃ db', program (healthy env db) = (.ok (), healthy env db') ∧ SameBalances db db'

theorem counts_of_keepsBalances {program : Program World String Unit} (keeps : Keeps KeepsBalances program)
    (succeeds : ∀ env db, ∃ db', program (healthy env db) = (.ok (), healthy env db')) : Counts program := by
  intro env db
  obtain ⟨db', run⟩ := succeeds env db
  have kept := keeps (healthy env db)
  rw [run] at kept
  exact ⟨db', run, kept⟩

theorem updateUserUsedQuotaAndRequestCount_counts : Counts (updateUserUsedQuotaAndRequestCount id quota) := by
  apply counts_of_keepsBalances (updateUserUsedQuotaAndRequestCount_keepsBalances id quota)
  intro env db
  rw [updateUserUsedQuotaAndRequestCount, getEnv_bind]
  split <;> exact ⟨_, rfl⟩

theorem updateChannelUsedQuota_counts : Counts (updateChannelUsedQuota id quota) := by
  apply counts_of_keepsBalances (updateChannelUsedQuota_keepsBalances id quota)
  intro env db
  rw [updateChannelUsedQuota, logged, applyOrCollect_healthy]
  exact ⟨_, rfl⟩

end Tokengine.Model.Quota
