import Tokengine.Lib.Deltas
import Tokengine.Lib.Runs
import Tokengine.Model.Quota

/-! Quota changes with batch updating. An operation either changes its row with one statement or
adds to one of five stores; `batchUpdate` swaps the stores out one by one and writes their
entries, while operations go on. The tables here have the column `accessed_time`, which only the
statements about a token write. -/

namespace Tokengine.Batch
open Model.Database

structure Token extends Model.Database.Token where
  accessedTime : Int
deriving DecidableEq

structure Tables where
  users : Table User.id
  tokens : Table (fun token : Token => token.id)
  channels : Table Channel.id

/-- The functions that run one `UPDATE`. -/
inductive Statement
  | increaseUserQuota (id quota : Int)
  | decreaseUserQuota (id quota : Int)
  | increaseTokenQuota (id quota : Int)
  | decreaseTokenQuota (id quota : Int)
  | updateUserUsedQuota (id quota : Int)
  | updateUserRequestCount (id count : Int)
  | updateUserUsedQuotaAndRequestCount (id quota count : Int)
  | updateChannelUsedQuota (id quota : Int)
deriving DecidableEq

def Statement.exec (now : Int) (tables : Tables) : Statement → Tables
  | .increaseUserQuota id quota =>
    { tables with users := tables.users.update id fun user => { user with quota := user.quota + quota } }
  | .decreaseUserQuota id quota =>
    { tables with users := tables.users.update id fun user => { user with quota := user.quota - quota } }
  | .increaseTokenQuota id quota =>
    { tables with tokens := tables.tokens.update id fun token =>
        { token with
          remainQuota := token.remainQuota + quota, usedQuota := token.usedQuota - quota, accessedTime := now } }
  | .decreaseTokenQuota id quota =>
    { tables with tokens := tables.tokens.update id fun token =>
        { token with
          remainQuota := token.remainQuota - quota, usedQuota := token.usedQuota + quota, accessedTime := now } }
  | .updateUserUsedQuota id quota =>
    { tables with users := tables.users.update id fun user => { user with usedQuota := user.usedQuota + quota } }
  | .updateUserRequestCount id count =>
    { tables with users := tables.users.update id fun user => { user with requestCount := user.requestCount + count } }
  | .updateUserUsedQuotaAndRequestCount id quota count =>
    { tables with users := tables.users.update id fun user =>
        { user with usedQuota := user.usedQuota + quota, requestCount := user.requestCount + count } }
  | .updateChannelUsedQuota id quota =>
    { tables with channels := tables.channels.update id fun ch =>
        { ch with usedQuota := ch.usedQuota + quota } }

/-- One atomic action of an operation: `addNewRecord` under the lock of its store, or a statement. -/
inductive Action
  | addNewRecord (kind : BatchUpdateType) (id val : Int)
  | statement (statement : Statement)
deriving DecidableEq

/-- The quota operations; `db` asks for an immediate write. -/
inductive Operation
  | increaseUserQuota (id quota : Int) (db : Bool)
  | decreaseUserQuota (id quota : Int) (db : Bool)
  | deltaUpdateUserQuota (id delta : Int)
  | increaseTokenQuota (id quota : Int)
  | decreaseTokenQuota (id quota : Int)
  | updateUserUsedQuotaAndRequestCount (id quota : Int)
  | updateUserUsedQuota (id quota : Int)
  | updateChannelUsedQuota (id quota : Int)

section Operations

variable (batchUpdateEnabled : Bool)

def increaseUserQuota (id quota : Int) (db : Bool) : Except String (List Action) :=
  if quota < 0 then .error Model.Quota.negativeQuota
  else if !db && batchUpdateEnabled then .ok [.addNewRecord .userQuota id quota]
  else .ok [.statement (.increaseUserQuota id quota)]

def decreaseUserQuota (id quota : Int) (db : Bool) : Except String (List Action) :=
  if quota < 0 then .error Model.Quota.negativeQuota
  else if !db && batchUpdateEnabled then .ok [.addNewRecord .userQuota id (-quota)]
  else .ok [.statement (.decreaseUserQuota id quota)]

def deltaUpdateUserQuota (id delta : Int) : Except String (List Action) :=
  if delta = 0 then .ok []
  else if delta > 0 then increaseUserQuota batchUpdateEnabled id delta false
  else decreaseUserQuota batchUpdateEnabled id (-delta) false

def increaseTokenQuota (id quota : Int) : Except String (List Action) :=
  if quota < 0 then .error Model.Quota.negativeQuota
  else if batchUpdateEnabled then .ok [.addNewRecord .tokenQuota id quota]
  else .ok [.statement (.increaseTokenQuota id quota)]

def decreaseTokenQuota (id quota : Int) : Except String (List Action) :=
  if quota < 0 then .error Model.Quota.negativeQuota
  else if batchUpdateEnabled then .ok [.addNewRecord .tokenQuota id (-quota)]
  else .ok [.statement (.decreaseTokenQuota id quota)]

def updateUserUsedQuotaAndRequestCount (id quota : Int) : List Action :=
  if batchUpdateEnabled then [.addNewRecord .usedQuota id quota, .addNewRecord .requestCount id 1]
  else [.statement (.updateUserUsedQuotaAndRequestCount id quota 1)]

def updateUserUsedQuota (id quota : Int) : List Action :=
  if batchUpdateEnabled then [.addNewRecord .usedQuota id quota] else [.statement (.updateUserUsedQuota id quota)]

def updateChannelUsedQuota (id quota : Int) : List Action :=
  if batchUpdateEnabled then [.addNewRecord .channelUsedQuota id quota]
  else [.statement (.updateChannelUsedQuota id quota)]

def Operation.actions : Operation → Except String (List Action)
  | .increaseUserQuota id quota db => Batch.increaseUserQuota batchUpdateEnabled id quota db
  | .decreaseUserQuota id quota db => Batch.decreaseUserQuota batchUpdateEnabled id quota db
  | .deltaUpdateUserQuota id delta => Batch.deltaUpdateUserQuota batchUpdateEnabled id delta
  | .increaseTokenQuota id quota => Batch.increaseTokenQuota batchUpdateEnabled id quota
  | .decreaseTokenQuota id quota => Batch.decreaseTokenQuota batchUpdateEnabled id quota
  | .updateUserUsedQuotaAndRequestCount id quota =>
    .ok (Batch.updateUserUsedQuotaAndRequestCount batchUpdateEnabled id quota)
  | .updateUserUsedQuota id quota => .ok (Batch.updateUserUsedQuota batchUpdateEnabled id quota)
  | .updateChannelUsedQuota id quota => .ok (Batch.updateChannelUsedQuota batchUpdateEnabled id quota)

def Operation.performed (operation : Operation) : List Action := ((operation.actions batchUpdateEnabled).toOption).getD []

end Operations

def nextType : BatchUpdateType → Option BatchUpdateType
  | .userQuota => some .tokenQuota
  | .tokenQuota => some .usedQuota
  | .usedQuota => some .channelUsedQuota
  | .channelUsedQuota => some .requestCount
  | .requestCount => none

/-- Where the one goroutine that runs `batchUpdate` stands: between two calls, looking for data,
about to swap a store out, or with entries of a swapped store left to write. -/
inductive Phase
  | idle
  | checking (kind : BatchUpdateType)
  | swapping (kind : BatchUpdateType)
  | writing (kind : BatchUpdateType) (entries : List (Int × Int))
deriving DecidableEq

structure Node where
  tables : Tables
  batchUpdateStores : BatchUpdateType → Deltas Int
  phase : Phase

def Node.start (tables : Tables) : Node := ⟨tables, fun _ => .empty, .idle⟩

def Node.act (now : Int) (node : Node) : Action → Node
  | .addNewRecord kind id val =>
    { node with batchUpdateStores :=
        Function.update node.batchUpdateStores kind ((node.batchUpdateStores kind).add id val) }
  | .statement stmt => { node with tables := stmt.exec now node.tables }

/-- The statement `batchUpdate` runs for an entry of a store. -/
def flushStatement (kind : BatchUpdateType) (id val : Int) : Statement :=
  match kind with
  | .userQuota => .increaseUserQuota id val
  | .tokenQuota => .increaseTokenQuota id val
  | .usedQuota => .updateUserUsedQuota id val
  | .requestCount => .updateUserRequestCount id val
  | .channelUsedQuota => .updateChannelUsedQuota id val

/-- The next step of `batchUpdate`. The entries of a store come in the order of a map iteration,
that is in any order: `pick` is the entry that comes next. -/
def Node.flush (now : Int) (pick : Nat) (node : Node) : Option Node :=
  match node.phase with
  | .idle => some { node with phase := .checking .userQuota }
  | .checking kind =>
    if (node.batchUpdateStores kind).rows ≠ [] then some { node with phase := .swapping .userQuota }
    else some { node with phase := (nextType kind).elim .idle .checking }
  | .swapping kind =>
    some { node with
      batchUpdateStores := Function.update node.batchUpdateStores kind .empty
      phase := .writing kind (node.batchUpdateStores kind).rows }
  | .writing kind entries =>
    if entries = [] then some { node with phase := (nextType kind).elim .idle .swapping }
    else (entries[pick]?).map fun entry =>
      { node with
        tables := (flushStatement kind entry.1 entry.2).exec now node.tables
        phase := .writing kind (entries.eraseIdx pick) }

/-- A goroutine's next action, or the next step of `batchUpdate`, each at its own time. -/
inductive Label
  | act (now : Int) (action : Action)
  | flush (now : Int) (pick : Nat)

def step (node : Node) : Label → Option Node
  | .act now action => some (node.act now action)
  | .flush now pick => node.flush now pick

def acted (labels : List Label) : List Action :=
  labels.filterMap fun
    | .act _ action => some action
    | .flush _ _ => none

def direct (tables : Tables) (operations : List (Int × Operation)) : Node :=
  operations.foldl (fun node timed => (timed.2.performed false).foldl (Node.act timed.1) node) (.start tables)

end Tokengine.Batch
