import Tokengine.Lib.Transactions

/-! What a program does that runs alone and whose statements the driver accepts: it comes to its end, with one result and
one state of the tables. -/

namespace Tokengine.Transactions
open Interleaving List Function

variable {schema : Schema} {α β : Type}

/-- The program comes to its end if the mutexes that `free` names are not held, and leaves the mutexes as they were. -/
structure Completes (free : String → Prop) (acct : Local schema) (body : Action schema α) (after : Local schema)
    (res : Except String α) : Prop where
  runs : ∀ pid shared, Follows pid shared acct → (∀ name, free name → shared.holders name = none) →
    ∃ last, Script.alone exec pid body shared = some (res, last) ∧ Follows pid last after ∧ last.holders = shared.holders

variable {free : String → Prop} {acct middle after : Local schema}

theorem completes_pure (val : α) : Completes free acct (pure val) acct (.ok val) :=
  ⟨fun _ shared follows _ => ⟨shared, rfl, follows, rfl⟩⟩

theorem completes_throw (e : String) : Completes free acct (throw e : Action schema α) acct (.error e) :=
  ⟨fun _ shared follows _ => ⟨shared, rfl, follows, rfl⟩⟩

variable {res : Except String α} {body : Action schema α}

theorem completes_bind {body : Action schema β} {rest : β → Action schema α} {val : β}
    (first : Completes free acct body middle (.ok val)) (second : Completes free middle (rest val) after res) :
    Completes free acct (body >>= rest) after res := by
  refine ⟨fun pid shared follows unheld => ?_⟩
  obtain ⟨reached, ran, followed, same⟩ := first.runs pid shared follows unheld
  obtain ⟨last, ran', followed', same'⟩ := second.runs pid reached followed (by rw [same]; exact unheld)
  exact ⟨last, (alone_ok ran).trans ran', followed', same'.trans same⟩

theorem completes_attempt {body : Action schema β} {rest : Except String β → Action schema α} {caught : Except String β}
    (first : Completes free acct body middle caught) (second : Completes free middle (rest caught) after res) :
    Completes free acct (attempt body >>= rest) after res := by
  have lifted : Completes free acct (attempt body) middle (.ok caught) := by
    refine ⟨fun pid shared follows unheld => ?_⟩
    obtain ⟨reached, ran, followed, same⟩ := first.runs pid shared follows unheld
    exact ⟨reached, alone_bind ran, followed, same⟩
  exact completes_bind lifted second

variable (handle : Handle)

theorem completes_query (req : schema.Query) :
    Completes free acct (query handle req) acct (.ok (schema.answer req (acct.view handle))) := by
  refine ⟨fun pid shared follows _ => ?_⟩
  have performed : exec pid shared (.read handle req) = some (.ok (schema.answer req (shared.view pid handle)),
      shared.answered.note (.asked pid req)) := by
    simp only [exec, follows.faults]
  obtain ⟨answers, followed⟩ := follows_exec follows performed
  rw [← answers]
  exact ⟨_, alone_perform performed, followed, rfl⟩

theorem completes_execute (write : schema.Write) :
    Completes free acct (execute handle write) (acct.track (.write handle write)) (.ok ()) := by
  refine ⟨fun pid shared follows _ => ?_⟩
  have performed : ∃ reached, exec pid shared (.write handle write) = some (.ok (), reached) ∧
      reached.holders = shared.holders := by
    cases handle with
    | own => exact ⟨shared.answered.stage pid write, by simp only [exec, follows.faults], rfl⟩
    | global => exact ⟨shared.answered.take pid [write], by simp only [exec, follows.faults], rfl⟩
  obtain ⟨reached, performed, same⟩ := performed
  exact ⟨reached, alone_perform performed, (follows_exec follows performed).2, same⟩

def Local.tracks (acct : Local schema) (handle : Handle) (writes : List schema.Write) : Local schema :=
  writes.foldl (fun acct write => acct.track (.write handle write)) acct

variable (acct)

theorem tracks_append (first second : List schema.Write) :
    acct.tracks handle (first ++ second) = (acct.tracks handle first).tracks handle second := foldl_append

theorem tracks_own (writes : List schema.Write) : acct.tracks .own writes = ⟨acct.db, acct.pending ++ writes⟩ := by
  induction writes generalizing acct with
  | nil => simp [Local.tracks]
  | cons write rest tail =>
    change (acct.track (.write .own write)).tracks .own rest = _
    rw [tail]
    simp [Local.track]

theorem tracks_global (writes : List schema.Write) :
    acct.tracks .global writes = ⟨applyAll writes acct.db, acct.pending⟩ := by
  induction writes generalizing acct with
  | nil => rfl
  | cons write rest tail =>
    change (acct.track (.write .global write)).tracks .global rest = _
    rw [tail]
    rfl

variable {acct}

/-- A loop whose body always succeeds with the same writes. -/
theorem completes_loop {ι : Type} {body : Unit → ι → Action schema Unit} {handle : Handle} {writes : ι → List schema.Write}
    (each : ∀ acct item, Completes free acct (body () item) (acct.tracks handle (writes item)) (.ok ()))
    (items : List ι) (acct : Local schema) :
    Completes free acct (loop body items ()) (acct.tracks handle (items.flatMap writes)) (.ok ()) := by
  induction items generalizing acct with
  | nil => exact completes_pure ()
  | cons item rest tail =>
    rw [flatMap_cons, tracks_append]
    exact completes_bind (each acct item) (tail _)

/-- The same for a body that leaves no transaction open. -/
theorem completes_loop_settled {ι : Type} {body : Unit → ι → Action schema Unit} {writes : ι → List schema.Write}
    (each : ∀ db item, Completes free ⟨db, []⟩ (body () item) ⟨applyAll (writes item) db, []⟩ (.ok ())) (items : List ι)
    (db : schema.Db) : Completes free ⟨db, []⟩ (loop body items ()) ⟨applyAll (items.flatMap writes) db, []⟩ (.ok ()) := by
  induction items generalizing db with
  | nil => exact completes_pure ()
  | cons item rest tail =>
    have split : applyAll ((item :: rest).flatMap writes) db = applyAll (rest.flatMap writes) (applyAll (writes item) db) := by
      rw [flatMap_cons]
      exact foldl_append
    rw [split]
    exact completes_bind (each db item) (tail _)

/-- A body that succeeds is committed. -/
theorem completes_transaction {val : α} (inside : Completes free acct body after (.ok val)) :
    Completes free acct (transaction body) ⟨after.settled, []⟩ (.ok val) := by
  refine ⟨fun pid shared follows unheld => ?_⟩
  obtain ⟨reached, ran, followed, same⟩ := inside.runs pid shared follows unheld
  have performed : exec pid reached .commit =
      some (.ok (), (reached.answered.take pid (reached.pending pid)).close pid) := by
    simp only [exec, followed.faults]
  refine ⟨_, ?_, (follows_exec followed performed).2, same⟩
  exact (alone_bind ran).trans (alone_bind (alone_perform performed))

/-- A body that fails is rolled back. -/
theorem completes_rollback {e : String} (inside : Completes free acct body after (.error e)) :
    Completes free acct (transaction body) ⟨after.db, []⟩ (.error e) := by
  refine ⟨fun pid shared follows unheld => ?_⟩
  obtain ⟨reached, ran, followed, same⟩ := inside.runs pid shared follows unheld
  have performed : exec pid reached .rollback = some ((), reached.close pid) := rfl
  exact ⟨_, alone_bind ran, (follows_exec followed performed).2, same⟩

theorem completes_withLock {name : String} (unheld : free name)
    (inside : Completes (fun other => free other ∧ other ≠ name) acct body after res) :
    Completes free acct (withLock name body) after res := by
  refine ⟨fun pid shared follows opens => ?_⟩
  have unlocked : shared.holders name = none := opens name unheld
  have held : Follows pid { shared with holders := update shared.holders name (some pid) } acct :=
    ⟨follows.db, follows.pending, follows.faults⟩
  obtain ⟨reached, ran, followed, same⟩ := inside.runs pid _ held fun other kept =>
    (update_of_ne kept.2 _ _).trans (opens other kept.1)
  refine ⟨{ reached with holders := update reached.holders name none }, ?_,
    ⟨followed.db, followed.pending, followed.faults⟩, ?_⟩
  · change (exec pid shared (.lock name)).bind _ = _
    simp only [exec, unlocked, Option.bind_some]
    exact alone_bind ran
  · change update reached.holders name none = shared.holders
    rw [same, update_idem, update_eq_self_iff, unlocked]

/-- The end of a program that runs alone. -/
theorem completes_alone {db : schema.Db} (completes : Completes free ⟨db, []⟩ body after res)
    (pid : Nat) : ∃ last, Script.alone exec pid body (quiet db) = some (res, last) ∧ last.db = after.db := by
  obtain ⟨last, ran, followed, _⟩ := completes.runs pid (quiet db) ⟨rfl, rfl, rfl⟩ fun _ _ => rfl
  exact ⟨last, ran, followed.db⟩

end Tokengine.Transactions
