import Tokengine.Lib.Interleaving

/-! Programs on shared tables as scripts of statements. A statement goes through the program's own
transaction, whose writes the others see when it commits, or straight to the tables. Reads take no lock,
the driver may refuse any statement, and a mutex makes other programs of the process wait. -/

namespace Tokengine.Transactions
open Interleaving List Function

structure Schema where
  (Db Query : Type)
  Result : Query → Type
  answer : (query : Query) → Db → Result query
  Write : Type
  apply : Write → Db → Db

inductive Handle where
  | own
  | global
  deriving DecidableEq

variable {schema : Schema}

inductive Statement (schema : Schema) where
  | read (handle : Handle) (query : schema.Query)
  | write (handle : Handle) (write : schema.Write)
  | commit
  | rollback
  | lock (name : String)
  | unlock (name : String)

abbrev Answer : Statement schema → Type
  | .read _ query => Except String (schema.Result query)
  | .write _ _ => Except String Unit
  | .commit => Except String Unit
  | _ => Unit

/-- A query that was answered, a write that has reached the tables, or the end of a transaction. -/
inductive Event (schema : Schema) where
  | asked (pid : Nat) (query : schema.Query)
  | wrote (pid : Nat) (write : schema.Write)
  | closed (pid : Nat)

/-- The tables, the writes of the open transactions, who holds which mutex, what the driver will answer, and what
has happened, latest first. -/
structure Shared (schema : Schema) where
  db : schema.Db
  pending : Nat → List schema.Write
  holders : String → Option Nat
  faults : List (Option String)
  history : List (Event schema)

def applyAll (writes : List schema.Write) (db : schema.Db) : schema.Db :=
  writes.foldl (fun db write => schema.apply write db) db

namespace Shared

variable (shared : Shared schema) (pid : Nat)

def view : Handle → schema.Db
  | .own => applyAll (shared.pending pid) shared.db
  | .global => shared.db

def answered : Shared schema := { shared with faults := shared.faults.tail }

def note (event : Event schema) : Shared schema := { shared with history := event :: shared.history }

def stage (write : schema.Write) : Shared schema :=
  { shared with pending := update shared.pending pid (shared.pending pid ++ [write]) }

def take (writes : List schema.Write) : Shared schema := { shared with
  db := applyAll writes shared.db
  history := (writes.map (Event.wrote pid)).reverse ++ shared.history }

def close : Shared schema := { shared with
  pending := update shared.pending pid []
  history := .closed pid :: shared.history }

end Shared

def exec : Semantics (@Answer schema) (Shared schema) := fun pid shared stmt =>
  match stmt with
  | .read handle query => some (match shared.faults with
    | some fault :: _ => (.error fault, shared.answered)
    | _ => (.ok (schema.answer query (shared.view pid handle)), shared.answered.note (.asked pid query)))
  | .write handle write => some (match shared.faults, handle with
    | some fault :: _, _ => (.error fault, shared.answered)
    | _, .own => (.ok (), shared.answered.stage pid write)
    | _, .global => (.ok (), shared.answered.take pid [write]))
  | .commit => some (match shared.faults with
    | some fault :: _ => (.error fault, shared.answered.close pid)
    | _ => (.ok (), (shared.answered.take pid (shared.pending pid)).close pid))
  | .rollback => some ((), shared.close pid)
  | .lock name => match shared.holders name with
    | none => some ((), { shared with holders := update shared.holders name (some pid) })
    | some _ => none
  | .unlock name => some ((), { shared with holders := update shared.holders name none })

inductive Effect (pid : Nat) (shared : Shared schema) : (stmt : Statement schema) → Answer stmt → Shared schema → Prop
  | unread (handle : Handle) (query : schema.Query) (e : String) (faulty : shared.faults.head? = some (some e)) :
      Effect pid shared (.read handle query) (.error e) shared.answered
  | read (handle : Handle) (query : schema.Query) :
      Effect pid shared (.read handle query) (.ok (schema.answer query (shared.view pid handle)))
        (shared.answered.note (.asked pid query))
  | unwritten (handle : Handle) (write : schema.Write) (e : String) (faulty : shared.faults.head? = some (some e)) :
      Effect pid shared (.write handle write) (.error e) shared.answered
  | staged (write : schema.Write) : Effect pid shared (.write .own write) (.ok ()) (shared.answered.stage pid write)
  | taken (write : schema.Write) : Effect pid shared (.write .global write) (.ok ()) (shared.answered.take pid [write])
  | refused (e : String) (faulty : shared.faults.head? = some (some e)) : Effect pid shared .commit (.error e) (shared.answered.close pid)
  | committed : Effect pid shared .commit (.ok ()) ((shared.answered.take pid (shared.pending pid)).close pid)
  | rolledBack : Effect pid shared .rollback () (shared.close pid)
  | locked (name : String) (free : shared.holders name = none) :
      Effect pid shared (.lock name) () { shared with holders := update shared.holders name (some pid) }
  | unlocked (name : String) :
      Effect pid shared (.unlock name) () { shared with holders := update shared.holders name none }

variable {stmt : Statement schema} {answer : Answer stmt} {pid : Nat}

theorem exec_effect {shared after : Shared schema}
    (ran : exec pid shared stmt = some (answer, after)) : Effect pid shared stmt answer after := by
  cases stmt with
  | read handle query =>
    simp only [exec] at ran
    split at ran
    next fault _ faulty =>
      cases ran
      exact .unread handle query fault (by rw [faulty]; rfl)
    · cases ran
      exact .read handle query
  | write handle write =>
    simp only [exec] at ran
    split at ran
    next fault _ faulty =>
      cases ran
      exact .unwritten _ write fault (by rw [faulty]; rfl)
    · cases ran
      exact .staged write
    · cases ran
      exact .taken write
  | commit =>
    simp only [exec] at ran
    split at ran
    next fault _ faulty =>
      cases ran
      exact .refused fault (by rw [faulty]; rfl)
    · cases ran
      exact .committed
  | rollback =>
    cases ran
    exact .rolledBack
  | lock name =>
    simp only [exec] at ran
    split at ran
    next free =>
      cases ran
      exact .locked name free
    · cases ran
  | unlock name =>
    cases ran
    exact .unlocked name

def accepts (shared : Shared schema) : Bool := match shared.faults with
  | some _ :: _ => false
  | _ => true

variable {e : String}

theorem not_accepts {shared : Shared schema} (faulty : shared.faults.head? = some (some e)) : accepts shared ≠ true := by
  unfold accepts
  split
  · exact Bool.false_ne_true
  next other =>
  cases faults : shared.faults with
  | nil => simp [faults] at faulty
  | cons first rest =>
    rw [faults, head?_cons, Option.some.injEq] at faulty
    exact absurd (faulty ▸ faults) (other e rest)

/-! Programs. -/

abbrev Action (schema : Schema) (α : Type) := ExceptT String (Script (@Answer schema)) α

variable {α : Type}

def query (handle : Handle) (query : schema.Query) : Action schema (schema.Result query)  :=
  ExceptT.mk (perform (A := Answer) (Statement.read handle query))

def execute (handle : Handle) (write : schema.Write) : Action schema Unit  :=
  ExceptT.mk (perform (A := Answer) (Statement.write handle write))

def computed (res : Except String α) : Action schema α := ExceptT.mk (pure res)

def attempt (body : Action schema α) : Action schema (Except String α) := ExceptT.lift body

def close : Except String α → Script (@Answer schema) (Except String α)
  | .error e => do
    let _ ← perform (A := Answer) Statement.rollback
    pure (.error e)
  | .ok val => do
    let committed ← perform (A := Answer) Statement.commit
    pure (committed.map fun _ => val)

/-- `DB.Transaction`. -/
def transaction (body : Action schema α) : Action schema α := ExceptT.mk (ExceptT.run body >>= close)

def withLock (name : String) (body : Action schema α) : Action schema α := ExceptT.mk do
  let _ ← perform (A := Answer) (Statement.lock name)
  let res ← ExceptT.run body
  let _ ← perform (A := Answer) (Statement.unlock name)
  pure res

/-! What is proved about a program under a discipline. -/

/-- The program keeps to the discipline, and ends as `post` says. -/
structure Obeys {γ : Type} (discipline : Discipline (@Answer schema) γ) (acct : γ) (body : Action schema α)
    (post : γ → Except String α → Prop) : Prop where
  meets : Script.Meets discipline post body acct

variable {condition : Prop} {handle : Handle} {req : schema.Query} {body : Action schema α}

variable {β γ : Type} {discipline : Discipline (@Answer schema) γ} {acct : γ} {post : γ → Except String α → Prop}
  {write : schema.Write} {middle : γ → Except String β → Prop} {rest : β → Action schema α}

theorem obeys_pure {val : α} (holds : post acct (.ok val)) : Obeys discipline acct (pure val) post := ⟨holds⟩

theorem obeys_throw (holds : post acct (.error e)) : Obeys discipline acct (throw e) post := ⟨holds⟩

theorem obeys_ite [Decidable condition] {first second : Action schema α}
    (holds : condition → Obeys discipline acct first post) (fails : ¬condition → Obeys discipline acct second post) :
    Obeys discipline acct (if condition then first else second) post := by
  split
  next met => exact holds met
  next unmet => exact fails unmet

theorem obeys_guard [Decidable condition] {rest : Action schema α}
    (holds : post acct (.error e)) (passes : ¬condition → Obeys discipline acct rest post) :
    Obeys discipline acct (if condition then throw e else rest) post := obeys_ite (fun _ => obeys_throw holds) passes

theorem obeys_skip [Decidable condition] {val : α} {rest : Action schema α}
    (holds : post acct (.ok val)) (passes : ¬condition → Obeys discipline acct rest post) :
    Obeys discipline acct (if condition then pure val else rest) post := obeys_ite (fun _ => obeys_pure holds) passes

theorem obeys_bind {body : Action schema β} (first : Obeys discipline acct body middle)
    (continues : ∀ acct val, middle acct (.ok val) → Obeys discipline acct (rest val) post)
    (fails : ∀ acct e, middle acct (.error e) → post acct (.error e)) : Obeys discipline acct (body >>= rest) post :=
  ⟨meets_fallible_bind first.meets (fun acct val reached => (continues acct val reached).meets) fails⟩

theorem obeys_computed {res : Except String β} (fails : ∀ e, post acct (.error e))
    (continues : ∀ val, res = .ok val → Obeys discipline acct (rest val) post) :
    Obeys discipline acct (computed res >>= rest) post := by
  cases res with
  | error e => exact ⟨fails e⟩
  | ok val => exact ⟨(continues val rfl).meets⟩

/-- A caught error is a value. -/
theorem obeys_attempt {body : Action schema β} {rest : Except String β → Action schema α} (first : Obeys discipline acct body middle)
    (continues : ∀ acct res, middle acct res → Obeys discipline acct (rest res) post) :
    Obeys discipline acct (attempt body >>= rest) post := by
  have lifted : Obeys discipline acct (attempt body) fun acct res =>
      ∃ val, res = .ok val ∧ middle acct val :=
    ⟨meets_bind first.meets fun _ val reached => ⟨val, rfl, reached⟩⟩
  refine obeys_bind lifted (fun acct res reached => ?_) fun _ _ reached => ?_
  · obtain ⟨val, same, holds⟩ := reached
    cases same
    exact continues acct res holds
  · obtain ⟨_, same, _⟩ := reached
    cases same

/-- A read whose error is caught and whose row may be missing. -/
theorem obeys_attempt_option {body : Action schema (Option β)} {rest : Except String (Option β) → Action schema α}
    {middle : γ → Except String (Option β) → Prop} (first : Obeys discipline acct body middle)
    (present : ∀ acct val, middle acct (.ok (some val)) → Obeys discipline acct (rest (.ok (some val))) post)
    (missing : ∀ acct, middle acct (.ok none) → Obeys discipline acct (rest (.ok none)) post)
    (fails : ∀ acct e, middle acct (.error e) → Obeys discipline acct (rest (.error e)) post) :
    Obeys discipline acct (attempt body >>= rest) post := by
  refine obeys_attempt first fun acct res reached => ?_
  cases res with
  | error e => exact fails acct e reached
  | ok found =>
    cases found with
    | none => exact missing acct reached
    | some val => exact present acct val reached

theorem obeys_query {post : γ → Except String (schema.Result req) → Prop}
    (allowed : discipline.allowed acct (.read handle req))
    (ends : ∀ answer, discipline.answered acct (.read handle req) answer →
      post (discipline.track acct (.read handle req) answer) answer) :
    Obeys discipline acct (query handle req) post := ⟨allowed, ends⟩

theorem obeys_execute {post : γ → Except String Unit → Prop} (allowed : discipline.allowed acct (.write handle write))
    (ends : ∀ answer, discipline.answered acct (.write handle write) answer →
      post (discipline.track acct (.write handle write) answer) answer) :
    Obeys discipline acct (execute handle write) post := ⟨allowed, ends⟩

theorem obeys_execute_then {rest : Unit → Action schema α} (allowed : discipline.allowed acct (.write handle write))
    (continues : discipline.answered acct (.write handle write) (.ok ()) →
      Obeys discipline (discipline.track acct (.write handle write) (.ok ())) (rest ()) post)
    (fails : ∀ e, discipline.answered acct (.write handle write) (.error e) →
      post (discipline.track acct (.write handle write) (.error e)) (.error e)) :
    Obeys discipline acct (execute handle write >>= rest) post := by
  refine ⟨allowed, fun answer relied => ?_⟩
  cases answer with
  | error e => exact fails e relied
  | ok => exact (continues relied).meets

/-- A transaction commits the value of its body, and rolls back with its error. -/
theorem obeys_transaction (inside : Obeys discipline acct body fun acct res => match res with
      | .ok val => discipline.allowed acct .commit ∧ ∀ answer : Except String Unit,
          discipline.answered acct .commit answer →
          post (discipline.track acct .commit answer) (answer.map fun _ => val)
      | .error e => discipline.allowed acct .rollback ∧ (discipline.answered acct .rollback () →
          post (discipline.track acct .rollback ()) (.error e))) : Obeys discipline acct (transaction body) post := by
  refine ⟨meets_bind inside.meets fun acct res reached => ?_⟩
  cases res with
  | error e => exact ⟨reached.1, fun _ relied => reached.2 relied⟩
  | ok val => exact ⟨reached.1, fun answer relied => reached.2 answer relied⟩

theorem obeys_withLock {name : String} (allowed : discipline.allowed acct (.lock name))
    (inside : Obeys discipline (discipline.track acct (.lock name) ()) body fun acct res =>
      discipline.allowed acct (.unlock name) ∧ post (discipline.track acct (.unlock name) ()) res) :
    Obeys discipline acct (withLock name body) post := by
  have locks : Script.Meets discipline (fun after _ => after = discipline.track acct (.lock name) ())
      (perform (A := Answer) (Statement.lock name)) acct := ⟨allowed, fun _ _ => rfl⟩
  refine ⟨meets_bind locks fun after _ same => ?_⟩
  rw [same]
  refine meets_bind inside.meets fun acct res reached => ?_
  exact ⟨reached.1, fun _ _ => reached.2⟩

theorem obeys_mono {post' : γ → Except String α → Prop} (obeys : Obeys discipline acct body post)
    (weaker : ∀ acct res, post acct res → post' acct res) : Obeys discipline acct body post' :=
  ⟨meets_mono weaker obeys.meets⟩

/-- A loop all of whose items preserve what holds. -/
theorem obeys_loop {ι : Type} {items : List ι} {body : β → ι → Action schema β} {holds : γ → Prop}
    (each : ∀ item ∈ items, ∀ acct state, holds acct →
      Obeys discipline acct (body state item) fun acct _ => holds acct)
    {state : β} (start : holds acct) : Obeys discipline acct (loop body items state) fun acct _ => holds acct := by
  have either : ∀ acct (res : Except String β),
      orFails (fun acct _ => holds acct) holds acct res ↔ holds acct := by
    intro acct res
    cases res <;> exact Iff.rfl
  refine ⟨meets_mono (fun acct res => (either acct res).mp) (meets_loop_all (fun item mem => ?_) start)⟩
  exact fun acct state before =>
    meets_mono (fun acct res => (either acct res).mpr) (each item mem acct state before).meets

/-! A program that runs alone, and whose statements the driver accepts. -/

structure Local (schema : Schema) where
  db : schema.Db
  pending : List schema.Write

def Local.settled (acct : Local schema) : schema.Db := applyAll acct.pending acct.db

def Local.view (acct : Local schema) : Handle → schema.Db
  | .own => acct.settled
  | .global => acct.db

def Local.track (acct : Local schema) : Statement schema → Local schema
  | .write .own write => { acct with pending := acct.pending ++ [write] }
  | .write .global write => { acct with db := schema.apply write acct.db }
  | .commit => ⟨acct.settled, []⟩
  | .rollback => { acct with pending := [] }
  | _ => acct

theorem settled_write (acct : Local schema) (write : schema.Write) :
    (acct.track (.write .own write)).settled = schema.apply write acct.settled := foldl_concat ..

def sequential : Discipline (@Answer schema) (Local schema) where
  allowed _ _ := True
  answered acct stmt answer := match stmt, answer with
    | .read handle query, answer => answer = .ok (schema.answer query (acct.view handle))
    | .write _ _, answer => answer = .ok ()
    | .commit, answer => answer = .ok ()
    | _, _ => True
  track acct stmt _ := acct.track stmt

/-- From these tables the program ends as `post` says. -/
abbrev Does (acct : Local schema) (body : Action schema α) (post : Local schema → Except String α → Prop) : Prop :=
  Obeys sequential acct body post

section Does

variable {acct : Local schema} {post : Local schema → Except String α → Prop}

theorem does_query {rest : schema.Result req → Action schema α}
    (continues : Does acct (rest (schema.answer req (acct.view handle))) post) :
    Does acct (query handle req >>= rest) post := by
  refine ⟨trivial, fun answer relied => ?_⟩
  cases relied
  exact continues.meets

theorem does_attempt_query {rest : Except String (schema.Result req) → Action schema α}
    (continues : Does acct (rest (.ok (schema.answer req (acct.view handle)))) post) :
    Does acct (attempt (query handle req) >>= rest) post := by
  refine ⟨trivial, fun answer relied => ?_⟩
  cases relied
  exact continues.meets

theorem does_execute {post : Local schema → Except String Unit → Prop}
    (holds : post (acct.track (.write handle write)) (.ok ())) : Does acct (execute handle write) post := by
  refine obeys_execute trivial fun answer relied => ?_
  cases relied
  exact holds

theorem does_transaction (inside : Does acct body fun acct res => match res with
      | .ok val => post ⟨acct.settled, []⟩ (.ok val)
      | .error e => post ⟨acct.db, []⟩ (.error e)) : Does acct (transaction body) post := by
  refine obeys_transaction (obeys_mono inside fun acct res reached => ?_)
  cases res with
  | error e => exact ⟨trivial, fun _ => reached⟩
  | ok val =>
    refine ⟨trivial, fun answer relied => ?_⟩
    cases relied
    exact reached

end Does

def quiet (db : schema.Db) : Shared schema := ⟨db, fun _ => [], fun _ => none, [], []⟩

structure Follows (pid : Nat) (shared : Shared schema) (acct : Local schema) : Prop where
  db : shared.db = acct.db
  pending : shared.pending pid = acct.pending
  faults : shared.faults = []

theorem follows_exec {shared after : Shared schema} {acct : Local schema} (follows : Follows pid shared acct)
    (ran : exec pid shared stmt = some (answer, after)) :
    sequential.answered acct stmt answer ∧ Follows pid after (acct.track stmt) := by
  obtain ⟨db, pending, faults⟩ := follows
  have kept : shared.faults.tail = [] := by rw [faults]; rfl
  have accepts : ∀ {e : String}, shared.faults.head? ≠ some (some e) := by simp [faults]
  have same : ∀ handle, shared.view pid handle = acct.view handle := by
    intro handle
    cases handle with
    | own => rw [Shared.view, pending, db]; rfl
    | global => exact db
  cases exec_effect ran with
  | unread _ _ _ faulty => exact absurd faulty accepts
  | read handle query =>
    refine ⟨?_, db, pending, kept⟩
    rw [same]
    rfl
  | unwritten _ _ _ faulty => exact absurd faulty accepts
  | staged write =>
    refine ⟨rfl, db, ?_, kept⟩
    change update shared.pending pid (shared.pending pid ++ [write]) pid = acct.pending ++ [write]
    rw [update_self, pending]
  | taken write =>
    refine ⟨rfl, ?_, pending, kept⟩
    change schema.apply write shared.db = schema.apply write acct.db
    rw [db]
  | refused _ faulty => exact absurd faulty accepts
  | committed =>
    refine ⟨rfl, ?_, update_self .., kept⟩
    change applyAll (shared.pending pid) shared.db = applyAll acct.pending acct.db
    rw [db, pending]
  | rolledBack => exact ⟨trivial, db, update_self .., faults⟩
  | locked | unlocked => exact ⟨trivial, db, pending, faults⟩

variable {db : schema.Db} {programs : List (Action schema α)} {faults : List (Option String)}

/-- What is proved about a program that runs alone holds at its end. -/
theorem alone_does {post : Local schema → Except String α → Prop}
    {after : Shared schema} {res : Except String α} (does : Does ⟨db, []⟩ body post)
    (run : Script.alone exec pid body (quiet db) = some (res, after)) : ∃ acct, after.db = acct.db ∧ post acct res := by
  have start : Follows pid (quiet db) ⟨db, []⟩ := ⟨rfl, rfl, rfl⟩
  obtain ⟨acct, follows, holds⟩ := alone_meets
    (fun _ _ _ _ _ follows _ ran => follows_exec follows ran) start does.meets run
  exact ⟨acct, follows.db, holds⟩

/-! Programs side by side. -/

def launch (db : schema.Db) (faults : List (Option String)) (programs : List (Action schema α)) :
    Machine (@Answer schema) (Shared schema) (Except String α) :=
  ⟨{ quiet db with faults := faults }, programs.map ExceptT.run⟩

variable {γ : Type} {discipline : Discipline (@Answer schema) γ} {invariant : Shared schema → (Nat → γ) → Prop}
  {acct : γ} (holds : invariant { quiet db with faults := faults } fun _ => acct)
include holds

/-- Programs that keep to the discipline, each with an end of its own. -/
theorem launch_coherent_each {post : Nat → γ → Except String α → Prop}
    (obeys : ∀ pid program, programs[pid]? = some program → Obeys discipline acct program (post pid)) :
    Coherent (fun _ => discipline) post invariant programs.length (launch db faults programs) := by
  refine ⟨length_map _, _, holds, fun pid script found => ?_⟩
  rw [launch, getElem?_map] at found
  obtain ⟨program, listed, rfl⟩ := Option.map_eq_some_iff.mp found
  exact (obeys pid program listed).meets

theorem launch_coherent {post : γ → Except String α → Prop}
    (obeys : ∀ program ∈ programs, Obeys discipline acct program post) :
    Coherent (fun _ => discipline) (fun _ => post) invariant programs.length (launch db faults programs) :=
  launch_coherent_each holds fun _ program listed => obeys program (mem_of_getElem? listed)

end Tokengine.Transactions
