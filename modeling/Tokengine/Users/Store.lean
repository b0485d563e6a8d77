import Tokengine.Lib.Transactions
import Tokengine.Model.Quota

/-! The statements on a user's row and the functions that change its quota or write the row back:
`increaseUserQuota` and `decreaseUserQuota` add to the column in SQL, `inviteUser` and
`TransferAffQuotaToQuota` save a row they have read, and `User.Update` writes the nonzero fields
of a struct that its caller has filled. -/

namespace Tokengine.Users
open Transactions

/-- The columns of `users` that these functions read, and those a caller edits. -/
structure User where
  id : Int
  username : String := ""
  password : String := ""
  displayName : String := ""
  email : String := ""
  group : String := ""
  setting : String := ""
  affCode : String := ""
  quota : Int := 0
  usedQuota : Int := 0
  requestCount : Int := 0
  affCount : Int := 0
  affQuota : Int := 0
  affHistoryQuota : Int := 0
deriving DecidableEq

/-- A text or a number of a struct that `Updates` writes: the zero value leaves the column alone. -/
def given {α : Type} [DecidableEq α] (zero new old : α) : α := if new = zero then old else new

/-- `DB.Model(user).Updates(newUser)`: the nonzero fields, the primary key apart. -/
def User.updates (newUser row : User) : User :=
  { id := row.id
    username := given "" newUser.username row.username
    password := given "" newUser.password row.password
    displayName := given "" newUser.displayName row.displayName
    email := given "" newUser.email row.email
    group := given "" newUser.group row.group
    setting := given "" newUser.setting row.setting
    affCode := given "" newUser.affCode row.affCode
    quota := given 0 newUser.quota row.quota
    usedQuota := given 0 newUser.usedQuota row.usedQuota
    requestCount := given 0 newUser.requestCount row.requestCount
    affCount := given 0 newUser.affCount row.affCount
    affQuota := given 0 newUser.affQuota row.affQuota
    affHistoryQuota := given 0 newUser.affHistoryQuota row.affHistoryQuota }

abbrev Store := Table User.id

inductive Query
  | user (id : Int)

abbrev Result : Query → Type
  | .user _ => Option User

def answer : (query : Query) → Store → Result query
  | .user id, db => db.lookup id

/-- The writes. `save` keeps beside the row it writes the row its program had read. -/
inductive Write
  | increaseUserQuota (id quota : Int)
  | decreaseUserQuota (id quota : Int)
  | save (loaded row : User)
  | updates (newUser : User)

def apply : Write → Store → Store
  | .increaseUserQuota id quota, db => db.update id fun user => { user with quota := user.quota + quota }
  | .decreaseUserQuota id quota, db => db.update id fun user => { user with quota := user.quota - quota }
  | .save _ row, db => db.save row
  | .updates newUser, db => db.update newUser.id newUser.updates

abbrev schema : Schema := ⟨Store, Query, Result, answer, Write, apply⟩

structure Settings where
  quotaForInviter : Int
  quotaPerUnit : Rat
  /-- `logger.LogQuota`. -/
  logQuota : Int → String
  /-- `common.Password2Hash`. -/
  password2Hash : String → Except String String
  /-- What writing the user to Redis answers. -/
  updateUserCache : User → Except String Unit

/-- `First` on `users`: a missing row is an error. -/
def firstUser (handle : Handle) (id : Int) : Action schema User := do
  match ← @Transactions.query schema handle (.user id) with
  | some user => pure user
  | none => throw "record not found"

def getUserById (id : Int) : Action schema User :=
  if id = 0 then throw "id 为空！" else firstUser .global id

def increaseUserQuota (id quota : Int) : Action schema Unit := execute .global (.increaseUserQuota id quota)

def decreaseUserQuota (id quota : Int) : Action schema Unit := execute .global (.decreaseUserQuota id quota)

def inviteUser (cfg : Settings) (inviterId : Int) : Action schema Unit := do
  let user ← getUserById inviterId
  execute .global (.save user
    { user with
      affCount := user.affCount + 1
      affQuota := user.affQuota + cfg.quotaForInviter
      affHistoryQuota := user.affHistoryQuota + cfg.quotaForInviter })

def transferTx (id quota : Int) : Action schema Unit := do
  let user ← firstUser .own id
  if user.affQuota < quota then throw "邀请额度不足！"
  else execute .own (.save user { user with affQuota := user.affQuota - quota, quota := user.quota + quota })

def transferAffQuotaToQuota (cfg : Settings) (id quota : Int) : Action schema Unit :=
  if (quota : Rat) < cfg.quotaPerUnit then
    throw ("转移额度最小为" ++ cfg.logQuota (cfg.quotaPerUnit.num.tdiv cfg.quotaPerUnit.den) ++ "！")
  else transaction (transferTx id quota)

def storedPassword (cfg : Settings) (user : User) (updatePassword : Bool) : Action schema String :=
  if updatePassword then computed (cfg.password2Hash user.password) else pure user.password

/-- `User.Update`. The row it reads is only used for the cache; an error of that read is dropped. -/
def updateUser (cfg : Settings) (user : User) (updatePassword : Bool) : Action schema Unit := do
  let password ← storedPassword cfg user updatePassword
  let newUser := { user with password }
  let found ← attempt (firstUser .global user.id)
  execute .global (.updates newUser)
  computed (cfg.updateUserCache (newUser.updates (found.toOption.getD newUser)))

structure Edit where
  username : Option String := none
  displayName : Option String := none
  email : Option String := none
  group : Option String := none
  setting : Option String := none
  affCode : Option String := none
  password : Option String := none

def Edit.change (edit : Edit) (user : User) : User :=
  { user with
    username := edit.username.getD user.username
    displayName := edit.displayName.getD user.displayName
    email := edit.email.getD user.email
    group := edit.group.getD user.group
    setting := edit.setting.getD user.setting
    affCode := edit.affCode.getD user.affCode
    password := edit.password.getD user.password }

/-- A handler that loads the user, changes some fields and calls `Update`. -/
def editProfile (cfg : Settings) (id : Int) (edit : Edit) : Action schema Unit := do
  let user ← getUserById id
  updateUser cfg (edit.change user) edit.password.isSome

/-- What is called, each by its own goroutine. `updateUser` is a call on any struct, `editProfile` one on a loaded row. -/
inductive Op
  | increaseUserQuota (id quota : Int)
  | decreaseUserQuota (id quota : Int)
  | inviteUser (inviterId : Int)
  | transferAffQuotaToQuota (id quota : Int)
  | updateUser (user : User) (updatePassword : Bool)
  | editProfile (id : Int) (edit : Edit)

def Op.script (cfg : Settings) : Op → Action schema Unit
  | .increaseUserQuota id quota => Users.increaseUserQuota id quota
  | .decreaseUserQuota id quota => Users.decreaseUserQuota id quota
  | .inviteUser inviterId => Users.inviteUser cfg inviterId
  | .transferAffQuotaToQuota id quota => Users.transferAffQuotaToQuota cfg id quota
  | .updateUser user updatePassword => Users.updateUser cfg user updatePassword
  | .editProfile id edit => Users.editProfile cfg id edit

def Op.delta (userId : Int) : Op → Int
  | .increaseUserQuota id quota => if userId = id then quota else 0
  | .decreaseUserQuota id quota => if userId = id then -quota else 0
  | .transferAffQuotaToQuota id quota => if userId = id then quota else 0
  | _ => 0

end Tokengine.Users
