import Tokengine.Lib.Totals
import Tokengine.Plans.Store

/-! The purchase limit of a plan. A purchase counts the subscriptions of the user before it inserts one of its
own, and takes no lock in between; a redemption does not count at all. -/

namespace Tokengine.Plans.PurchaseLimit
open Transactions Interleaving Model Database List Function Table Runs

variable {sub : Subscription}

section Counting

variable (user planId : Int)

def isOf (sub : Subscription) : Bool := sub.userId == user && sub.planId == planId

def weight (sub : Subscription) : Int := if isOf user planId sub then 1 else 0

def number (db : Store) : Int := db.subs.total (weight user planId)

def adds : Write → Int
  | .createSub row => weight user planId row
  | _ => 0

def added (writes : List Write) : Int := (writes.map (adds user planId)).sum

def addedSince (pid : Nat) : List (Event schema) → Int
  | [] => 0
  | .asked reader query :: earlier =>
    if reader = pid ∧ query = .subCount user planId then 0 else addedSince pid earlier
  | .wrote _ write :: earlier => addedSince pid earlier + adds user planId write
  | .closed _ :: earlier => addedSince pid earlier

variable {user planId}

theorem weight_nonneg (sub : Subscription) : 0 ≤ weight user planId sub := by
  unfold weight
  split <;> decide

theorem weight_of (mine : sub.userId = user) (same : sub.planId = planId) : weight user planId sub = 1 := by
  simp [weight, isOf, mine, same]

theorem weight_pos (pos : 0 < weight user planId sub) : sub.userId = user ∧ sub.planId = planId := by
  unfold weight at pos
  split at pos
  next holds => simpa [isOf] using holds
  · omega

theorem weight_le_one (sub : Subscription) : weight user planId sub ≤ 1 := by
  unfold weight
  split <;> decide

theorem adds_nonneg (write : Write) : 0 ≤ adds user planId write := by
  cases write with
  | createSub row => exact weight_nonneg row
  | _ => exact Int.le_refl 0

theorem answer_subCount (db : Store) : answer (.subCount user planId) db = number user planId db := by
  rw [number]
  exact (total_eq_countP db.subs (isOf user planId)).symm ▸ congrArg _ (countP_eq_length_filter ..).symm

theorem number_apply (write : Write) (db : Store) :
    number user planId (apply write db) ≤ number user planId db + adds user planId write := by
  cases write with
  | createSub row =>
    have replaced : 0 ≤ db.subs.column (weight user planId) db.nextSubId := by
      unfold column
      cases db.subs.lookup db.nextSubId with
      | none => exact Int.le_refl 0
      | some old => exact weight_nonneg old
    have saved := total_save db.subs { row with id := db.nextSubId } (weight user planId)
    change (db.subs.save { row with id := db.nextSubId }).total (weight user planId) ≤ _
    rw [saved]
    change _ - db.subs.column (weight user planId) db.nextSubId + weight user planId row ≤
      db.subs.total (weight user planId) + weight user planId row
    omega
  | expireDue userId now =>
    have same : ∀ row, weight user planId (expireRow userId now row) = weight user planId row := by
      intro row
      unfold expireRow
      split <;> rfl
    exact Int.le_of_eq ((total_modify (expireRow_id userId now) same).trans (Int.add_zero _).symm)
  | cancelSub id now =>
    let cancel (sub : Subscription) : Subscription := { sub with status := .cancelled, endTime := now }
    have same : (db.subs.update id cancel).total (weight user planId) = db.subs.total (weight user planId) :=
      @Table.total_update _ _ _ _ _ cancel _ (fun _ => rfl) (fun _ => rfl) id
    exact Int.le_of_eq (same.trans (Int.add_zero _).symm)
  | deleteSub id =>
    have fewer : (db.subs.delete id).total (weight user planId) ≤ db.subs.total (weight user planId) :=
      total_delete_le weight_nonneg id
    exact fewer.trans (Int.le_of_eq (Int.add_zero _).symm)
  | _ => exact Int.le_of_eq (Int.add_zero _).symm

theorem number_applyAll (writes : List Write) (db : Store) :
    number user planId (@applyAll schema writes db) ≤ number user planId db + added user planId writes := by
  induction writes generalizing db with
  | nil => exact Int.le_of_eq (Int.add_zero _).symm
  | cons write rest tail =>
    have first := @number_apply user planId write db
    have others := tail (apply write db)
    change number user planId (@applyAll schema rest (apply write db)) ≤ _ + (adds user planId write + added user planId rest)
    omega

theorem addedSince_wrote (pid writer : Nat) (writes : List Write) (history : List (Event schema)) :
    addedSince user planId pid ((writes.map (Event.wrote writer)).reverse ++ history) =
      addedSince user planId pid history + added user planId writes := by
  induction writes generalizing history with
  | nil => exact (Int.add_zero _).symm
  | cons write rest tail =>
    rw [map_cons, reverse_cons, append_assoc, tail, added, added, map_cons, sum_cons]
    simp only [singleton_append, addedSince]
    omega

theorem added_append (writes : List Write) (write : Write) :
    added user planId (writes ++ [write]) = added user planId writes + adds user planId write := by
  simp [added]

end Counting

/-! What a process knows. -/

/-- The writes of its transaction, and the number of subscriptions that it counted last. -/
structure Tally where
  pending : List Write
  count : Option Int

section Discipline

variable (user planId limit : Int)

def Below (acct : Tally) : Prop := ∃ count, acct.count = some count ∧ count < limit

def allowed (acct : Tally) : Statement schema → Prop
  | .read _ query => query = .subCount user planId → acct.pending = []
  | .write .own write => 0 < adds user planId write → added user planId acct.pending = 0 ∧ Below limit acct
  | .write .global (.createSub row) => 0 < weight user planId row → row.source = .redemption ∨ Below limit acct
  | _ => True

def answered (_ : Tally) : (stmt : Statement schema) → Answer stmt → Prop
  | .read _ (.plan id), answer => ∀ plan, answer = .ok (some plan) →
      plan.id = id ∧ (id = planId → plan.maxPurchasePerUser = limit)
  | _, _ => True

def track (acct : Tally) : (stmt : Statement schema) → Answer stmt → Tally
  | .read _ (.subCount userId id), .ok count =>
    if userId = user ∧ id = planId then { acct with count := some count } else acct
  | .write .own write, .ok _ => { acct with pending := acct.pending ++ [write] }
  | .commit, _ => { acct with pending := [] }
  | .rollback, _ => { acct with pending := [] }
  | _, _ => acct

structure Fits (shared : Shared schema) (pid : Nat) (acct : Tally) : Prop where
  pending : shared.pending pid = acct.pending
  single : added user planId acct.pending ≤ 1
  below : 0 < added user planId acct.pending → Below limit acct
  counted : ∀ count, acct.count = some count → number user planId shared.db ≤
    count + addedSince user planId pid shared.history

structure Held (shared : Shared schema) (accts : Nat → Tally) : Prop where
  within : number user planId shared.db ≤ limit
  plan : ∀ plan, shared.db.plans.lookup planId = some plan → plan.maxPurchasePerUser = limit
  fits : ∀ pid, Fits user planId limit shared pid (accts pid)

/-- A purchase reaches the tables only if the user was given no subscription of the plan since the purchase counted
them, and a redemption only while the user is below the limit. -/
def Undisturbed (shared : Shared schema) (pid : Nat) : Statement schema → Prop
  | .write .global (.createSub row) => isOf user planId row = true →
      if row.source = .redemption then number user planId shared.db < limit
      else addedSince user planId pid shared.history = 0
  | .commit => 0 < added user planId (shared.pending pid) → addedSince user planId pid shared.history = 0
  | _ => True

instance (shared : Shared schema) (pid : Nat) (stmt : Statement schema) :
    Decidable (Undisturbed user planId limit shared pid stmt) := by
  unfold Undisturbed
  split <;> infer_instance

end Discipline

/-- Whose purchases of which plan are counted, and its limit. -/
structure Watch where
  (user planId limit : Int)

def discipline (w : Watch) : Discipline (@Answer schema) Tally :=
  ⟨allowed w.user w.planId w.limit, answered w.planId w.limit, track w.user w.planId⟩

variable {write : Write}

variable {user planId limit : Int} {shared after : Shared schema} {accts : Nat → Tally} {acct : Tally}
  {pid other : Nat}

theorem track_unread (handle : Handle) (query : Query) (e : String) :
    track user planId acct (.read handle query) (.error e) = acct := by
  cases query <;> rfl

theorem track_read {query : Query} (ne : query ≠ .subCount user planId) (handle : Handle) (res : Result query) :
    track user planId acct (.read handle query) (.ok res) = acct := by
  cases query with
  | subCount userId id => exact if_neg fun same => ne (by rw [same.1, same.2])
  | _ => rfl

theorem Fits.grow (fits : Fits user planId limit shared other acct) (more : Int)
    (same : after.pending other = shared.pending other)
    (grows : number user planId after.db ≤ number user planId shared.db + more)
    (noted : addedSince user planId other after.history = addedSince user planId other shared.history + more) :
    Fits user planId limit after other acct where
  pending := same.trans fits.pending
  single := fits.single
  below := fits.below
  counted count counted := by
    have before := fits.counted count counted
    omega

variable (held : Held user planId limit shared accts)

include held

theorem Held.step (more : Int) (plans : after.db.plans = shared.db.plans)
    (others : ∀ other, other ≠ pid → after.pending other = shared.pending other)
    (grows : number user planId after.db ≤ number user planId shared.db + more) (noted : ∀ other, other ≠ pid →
      addedSince user planId other after.history = addedSince user planId other shared.history + more)
    (within : number user planId after.db ≤ limit) (mine : Fits user planId limit after pid acct) :
    Held user planId limit after (update accts pid acct) where
  within := within
  plan plan found := held.plan plan (plans ▸ found)
  fits := by
    rw [forall_update_iff accts fun other acct => Fits user planId limit after other acct]
    exact ⟨mine, fun other ne => (held.fits other).grow more (others other ne) grows (noted other ne)⟩

theorem Held.idle (db : after.db = shared.db) (others : ∀ other, other ≠ pid → after.pending other = shared.pending other)
    (noted : ∀ other, other ≠ pid → addedSince user planId other after.history = addedSince user planId other shared.history)
    (mine : Fits user planId limit after pid acct) : Held user planId limit after (update accts pid acct) := by
  refine held.step 0 (by rw [db]) others (Int.le_of_eq ?_) (fun other ne => ?_) (db ▸ held.within) mine
  · rw [db, Int.add_zero]
  · rw [noted other ne, Int.add_zero]

omit held

theorem plans_applyAll (writes : List Write) (db : Store) : (@applyAll schema writes db).plans = db.plans := by
  induction writes generalizing db with
  | nil => rfl
  | cons write rest tail =>
    have first : (apply write db).plans = db.plans := by cases write <;> rfl
    exact (tail (apply write db)).trans first

include held in
theorem Held.take (writes : List Write) (db : after.db = @applyAll schema writes shared.db)
    (others : ∀ other, other ≠ pid → after.pending other = shared.pending other)
    (noted : ∀ other, addedSince user planId other after.history =
      addedSince user planId other shared.history + added user planId writes)
    (within : number user planId shared.db + added user planId writes ≤ limit) (pending : after.pending pid = acct.pending)
    (counts : acct.count = (accts pid).count) (single : added user planId acct.pending ≤ 1)
    (below : 0 < added user planId acct.pending → Below limit acct) :
    Held user planId limit after (update accts pid acct) := by
  have grows := @number_applyAll user planId writes shared.db
  rw [← db] at grows
  refine held.step (added user planId writes) (by rw [db, plans_applyAll]) others grows (fun other _ => noted other)
    (grows.trans within) ⟨pending, single, below, fun count counted => ?_⟩
  have before := (held.fits pid).counted count (counts ▸ counted)
  have later := noted pid
  omega

theorem pending_of_ne {writes : List Write} (ne : other ≠ pid) (shared : Shared schema) :
    update shared.pending pid writes other = shared.pending other := update_of_ne ne _ _

theorem addedSince_asked {query : Query} (ne : ¬(pid = other ∧ query = .subCount user planId))
    (history : List (Event schema)) :
    addedSince user planId other (.asked pid query :: history) = addedSince user planId other history := if_neg ne

/-- A process that has counted fewer than the limit, and since then nobody has added to them. -/
theorem within_of_below (fits : Fits user planId limit shared pid acct) (below : Below limit acct)
    (fresh : addedSince user planId pid shared.history = 0) : number user planId shared.db + 1 ≤ limit := by
  obtain ⟨count, counted, fewer⟩ := below
  have before := fits.counted count counted
  omega

include held in
theorem Held.same (db : after.db = shared.db)
    (pending : after.pending = shared.pending) (history : after.history = shared.history) :
    Held user planId limit after accts where
  within := db ▸ held.within
  plan := db ▸ held.plan
  fits pid := (held.fits pid).grow 0 (by rw [pending]) (by rw [db, Int.add_zero]) (by rw [history, Int.add_zero])

theorem answered_unread (acct : Tally) (handle : Handle) (query : Query) (e : String) :
    answered planId limit acct (.read handle query) (.error e) := by
  cases query with
  | plan id => exact fun _ same => by cases same
  | _ => trivial

theorem plans_view (shared : Shared schema) (pid : Nat) (handle : Handle) :
    (shared.view pid handle).plans = shared.db.plans := by
  cases handle with
  | own => exact plans_applyAll (shared.pending pid) shared.db
  | global => rfl

section

variable (held : Held user planId limit shared accts)
include held

theorem Held.answered_read (acct : Tally) (handle : Handle) (query : Query) :
    answered planId limit acct (.read handle query) (.ok (answer query (shared.view pid handle))) := by
  cases query with
  | plan id =>
    intro plan same
    have found : (shared.view pid handle).plans.lookup id = some plan := Except.ok.inj same
    rw [plans_view] at found
    exact ⟨(lookup_some found).2, fun this => held.plan plan (this ▸ found)⟩
  | _ => trivial

theorem Held.read (handle : Handle) (query : Query) (kept : allowed user planId limit (accts pid) (.read handle query)) :
    Held user planId limit (shared.answered.note (.asked pid query)) (update accts pid
      (track user planId (accts pid) (.read handle query) (.ok (answer query (shared.view pid handle))))) := by
  have mine := held.fits pid
  refine held.idle rfl (fun _ _ => rfl) (fun other ne => addedSince_asked (fun same => ne same.1.symm) _) ?_
  by_cases counts : query = .subCount user planId
  · subst counts
    have nothing : shared.pending pid = [] := mine.pending.trans (kept rfl)
    have seen : shared.view pid handle = shared.db := by
      cases handle with
      | own => rw [Shared.view, nothing]; rfl
      | global => rfl
    have tracked : track user planId (accts pid) (.read handle (.subCount user planId))
        (.ok (answer (.subCount user planId) (shared.view pid handle))) =
          { accts pid with count := some (number user planId shared.db) } := by
      rw [seen, answer_subCount]
      exact if_pos ⟨rfl, rfl⟩
    rw [tracked]
    refine ⟨mine.pending, mine.single, fun pos => ?_, fun count counted => ?_⟩
    · rw [kept rfl] at pos
      cases pos
    cases counted
    have restarted : addedSince user planId pid (.asked pid (.subCount user planId) :: shared.history) = 0 :=
      if_pos ⟨rfl, rfl⟩
    change _ ≤ _ + addedSince user planId pid (.asked pid (.subCount user planId) :: shared.history)
    rw [restarted, Int.add_zero]
    exact Int.le_refl _
  · rw [track_read counts]
    refine mine.grow 0 rfl (Int.le_of_eq (Int.add_zero _).symm) ?_
    rw [Int.add_zero]
    exact addedSince_asked (fun same => counts same.2) _

theorem Held.stage (write : Write) (kept : allowed user planId limit (accts pid) (.write .own write)) :
    Held user planId limit (shared.answered.stage pid write)
      (update accts pid { accts pid with pending := (accts pid).pending ++ [write] }) := by
  have mine := held.fits pid
  have atMost : adds user planId write ≤ 1 := by
    cases write with
    | createSub row => exact weight_le_one row
    | _ => exact Int.zero_le_ofNat 1
  have amount : 0 ≤ adds user planId write := adds_nonneg write
  refine held.idle rfl (fun other ne => pending_of_ne ne shared) (fun _ _ => rfl) ⟨?_, ?_, ?_, mine.counted⟩
  · change update shared.pending pid (shared.pending pid ++ [write]) pid = _
    rw [update_self, mine.pending]
  · rw [added_append]
    by_cases pos : 0 < adds user planId write
    · have clean := (kept pos).1
      omega
    · have before := mine.single
      omega
  · rw [added_append]
    intro pos
    by_cases adding : 0 < adds user planId write
    · exact (kept adding).2
    · exact mine.below (by omega)

theorem Held.abandon (pid : Nat) (db : after.db = shared.db)
    (pending : after.pending = update shared.pending pid []) (history : after.history = .closed pid :: shared.history) :
    Held user planId limit after (update accts pid { accts pid with pending := [] }) := by
  refine held.idle db (fun other ne => ?_) (fun other _ => ?_) ⟨?_, Int.zero_le_ofNat 1, fun pos => ?_, ?_⟩
  · rw [pending]
    exact pending_of_ne ne shared
  · rw [history]
    rfl
  · rw [pending]
    exact update_self ..
  · cases pos
  · rw [db, history]
    exact (held.fits pid).counted

end

include held in
theorem within_taken (kept : allowed user planId limit (accts pid) (.write .global write))
    (undisturbed : Undisturbed user planId limit shared pid (.write .global write)) (pos : 0 < adds user planId write) :
    number user planId shared.db + adds user planId write ≤ limit := by
  cases write with
  | createSub row =>
    obtain ⟨mine, same⟩ := weight_pos pos
    have one : adds user planId (.createSub row) = 1 := weight_of mine same
    have room := undisturbed (by simp [isOf, mine, same])
    rw [one]
    by_cases redeemed : row.source = .redemption
    · rw [if_pos redeemed] at room
      omega
    · rw [if_neg redeemed] at room
      exact within_of_below (held.fits pid) ((kept pos).resolve_left redeemed) room
  | _ => cases pos

theorem held_preserved (user planId limit : Int) (count : Nat) :
    Preserved exec (fun _ => discipline ⟨user, planId, limit⟩) (Held user planId limit) (Undisturbed user planId limit) count := by
  intro pid shared accts stmt answer after _ held kept undisturbed ran
  have mine := held.fits pid
  have still : Held user planId limit shared (update accts pid (accts pid)) := by
    rw [update_eq_self]
    exact held
  cases exec_effect ran with
  | unread handle query e =>
    refine ⟨answered_unread (accts pid) handle query e, ?_⟩
    change Held user planId limit _ (update accts pid (track user planId _ _ _))
    rw [track_unread]
    exact still.same rfl rfl rfl
  | read handle query => exact ⟨held.answered_read (accts pid) handle query, held.read handle query kept⟩
  | unwritten handle write e =>
    refine ⟨trivial, ?_⟩
    have tracked : track user planId (accts pid) (.write handle write) (.error e) = accts pid := by
      cases handle <;> rfl
    change Held user planId limit _ (update accts pid (track user planId _ _ _))
    rw [tracked]
    exact still.same rfl rfl rfl
  | staged write => exact ⟨trivial, held.stage write kept⟩
  | taken write =>
    refine ⟨trivial, held.take [write] rfl (fun _ _ => rfl) (addedSince_wrote · pid [write] shared.history) ?_ mine.pending rfl
      mine.single mine.below⟩
    have alone : added user planId [write] = adds user planId write := Int.add_zero _
    rw [alone]
    by_cases pos : 0 < adds user planId write
    · exact within_taken held kept undisturbed pos
    · have amount : 0 ≤ adds user planId write := adds_nonneg write
      have before := held.within
      omega
  | refused e => exact ⟨trivial, held.abandon pid rfl rfl rfl⟩
  | committed =>
    refine ⟨trivial, held.take (shared.pending pid) rfl (fun other ne => pending_of_ne ne shared)
      (addedSince_wrote · pid (shared.pending pid) shared.history) ?_ (update_self ..) rfl (Int.zero_le_ofNat 1)
      nofun⟩
    rw [mine.pending]
    by_cases pos : 0 < added user planId (accts pid).pending
    · have room := within_of_below mine (mine.below pos) (undisturbed (mine.pending ▸ pos))
      have single := mine.single
      omega
    · have before := held.within
      omega
  | rolledBack => exact ⟨trivial, held.abandon pid rfl rfl rfl⟩
  | locked | unlocked => exact ⟨trivial, still.same rfl rfl rfl⟩

/-! Every operation keeps to the discipline. -/

variable {now : Int} {w : Watch}

section Operations

variable {α : Type} {handle : Handle} {clock : Clock} {userId : Int} {plan : Plan}

abbrev anyway {α : Type} : Tally → Except String α → Prop := fun _ _ => True

abbrev Passes (w : Watch) (acct : Tally) (body : Action schema α) : Prop :=
  Obeys (discipline w) acct body anyway

section Rules

variable {β : Type} {body : Action schema β} {rest : β → Action schema α} {post : Tally → Except String α → Prop}

theorem passes_bind {middle : Tally → Except String β → Prop} (first : Obeys (discipline w) acct body middle)
    (continues : ∀ after val, middle after (.ok val) → Passes w after (rest val)) :
    Passes w acct (body >>= rest) := obeys_bind first continues fun _ _ _ => trivial

/-- After a part that leaves the account as it is. -/
theorem obeys_after (first : Obeys (discipline w) acct body fun after _ => after = acct)
    (fails : ∀ e, post acct (.error e)) (continues : ∀ val, Obeys (discipline w) acct (rest val) post) :
    Obeys (discipline w) acct (body >>= rest) post := by
  refine obeys_bind first (fun after val same => ?_) fun after e same => ?_
  · rw [same]
    exact continues val
  · rw [same]
    exact fails e

end Rules

theorem obeys_other {req : Query} {post : Tally → Except String (Result req) → Prop}
    (others : req ≠ .subCount w.user w.planId)
    (ends : ∀ res, answered w.planId w.limit acct (.read handle req) res → post acct res) :
    Obeys (discipline w) acct (find handle req) post := by
  refine obeys_query (fun same => absurd same others) fun res relied => ?_
  have tracked : track w.user w.planId acct (.read handle req) res = acct := by
    cases res with
    | error e => exact track_unread handle req e
    | ok val => exact track_read others handle val
  change post (track w.user w.planId acct (.read handle req) res) res
  rw [tracked]
  exact ends res relied

theorem obeys_find {req : Query} {rest : Result req → Action schema α}
    (others : req ≠ .subCount w.user w.planId) (fails : ∀ e, post acct (.error e))
    (continues : ∀ res, Obeys (discipline w) acct (rest res) post) :
    Obeys (discipline w) acct (find handle req >>= rest) post :=
  obeys_after (obeys_other others fun _ _ => rfl) fails continues

variable {id : Int}

abbrev Limits (w : Watch) (plan : Plan) : Prop := plan.id = w.planId → plan.maxPurchasePerUser = w.limit

theorem obeys_getPlan : Obeys (discipline w) acct (getSubscriptionPlanByIdTx handle id)
    (orFails (fun after plan => after = acct ∧ Limits w plan) (· = acct)) := by
  have asked : Obeys (discipline w) acct (find handle (.plan id)) fun after res =>
      after = acct ∧ ∀ plan, res = .ok (some plan) → plan.id = id ∧ (id = w.planId → plan.maxPurchasePerUser = w.limit) :=
    obeys_other nofun fun _ relied => ⟨rfl, relied⟩
  refine obeys_guard rfl fun _ => obeys_bind asked (fun after found reached => ?_) fun after e reached => reached.1
  cases found with
  | none => exact obeys_throw reached.1
  | some plan =>
    obtain ⟨same, limits⟩ := reached.2 plan rfl
    exact obeys_pure ⟨reached.1, fun mine => limits (same ▸ mine)⟩

theorem obeys_plan {rest : Plan → Action schema α} (fails : ∀ e, post acct (.error e))
    (continues : ∀ plan, Limits w plan → Obeys (discipline w) acct (rest plan) post) :
    Obeys (discipline w) acct (getSubscriptionPlanByIdTx handle id >>= rest) post := by
  refine obeys_bind obeys_getPlan (fun after plan reached => ?_) fun after e same => ?_
  · rw [reached.1]
    exact continues plan reached.2
  · rw [(same : after = acct)]
    exact fails e

theorem obeys_run_global (permitted : allowed w.user w.planId w.limit acct (.write .global write)) :
    Obeys (discipline w) acct (run .global write) fun after _ => after = acct :=
  obeys_execute permitted fun _ _ => rfl

theorem obeys_run (nothing : adds w.user w.planId write = 0) :
    Obeys (discipline w) acct (run handle write) fun after _ =>
      added w.user w.planId after.pending = added w.user w.planId acct.pending ∧ after.count = acct.count := by
  cases handle with
  | own =>
    refine obeys_execute (fun pos => absurd nothing (Int.ne_of_gt pos)) fun answer _ => ?_
    cases answer with
    | error e => exact ⟨rfl, rfl⟩
    | ok =>
      refine ⟨?_, rfl⟩
      change added w.user w.planId (acct.pending ++ [write]) = _
      rw [added_append, nothing, Int.add_zero]
  | global =>
    refine obeys_mono (obeys_run_global ?_) fun after _ same => ?_
    · cases write with
      | createSub row => exact fun pos => absurd nothing (Int.ne_of_gt pos)
      | _ => trivial
    · rw [same]
      exact ⟨rfl, rfl⟩

theorem obeys_tx {body : Action schema α} (inside : Passes w acct body) : Passes w acct (transaction body) := by
  refine obeys_transaction (obeys_mono inside fun _ res _ => ?_)
  cases res with
  | error => exact ⟨trivial, fun _ => trivial⟩
  | ok => exact ⟨trivial, fun _ _ => trivial⟩

/-! Purchases. -/

section Purchases

variable (pos : 0 < w.limit)

variable (clean : acct.pending = [])

include clean in
theorem obeys_count : Obeys (discipline w) acct (find handle (.subCount userId id)) fun after res =>
      after.pending = [] ∧ ∀ count, res = .ok count → userId = w.user → id = w.planId → after.count = some count := by
  refine obeys_query (fun _ => clean) fun answer _ => ?_
  cases answer with
  | error e => exact ⟨clean, nofun⟩
  | ok count =>
    change Tally.pending (if userId = w.user ∧ id = w.planId then _ else _) = [] ∧ ∀ val, Except.ok count = Except.ok val →
      userId = w.user → id = w.planId → Tally.count (if userId = w.user ∧ id = w.planId then _ else _) = some val
    split
    · exact ⟨clean, fun val same _ _ => congrArg some (Except.ok.inj same)⟩
    next others => exact ⟨clean, fun _ _ mine same => absurd ⟨mine, same⟩ others⟩

include clean in
include pos in
theorem obeys_checkPurchaseLimit (limits : Limits w plan) :
    Obeys (discipline w) acct (checkPurchaseLimit handle userId plan) fun after res =>
      after.pending = [] ∧ (res = .ok () → userId = w.user → plan.id = w.planId → Below w.limit after) := by
  refine obeys_ite (fun _ => ?_) fun unlimited => obeys_pure ⟨clean, fun _ _ mine => ?_⟩
  · refine obeys_bind (obeys_count clean) (fun after count reached => ?_) fun _ _ reached => ⟨reached.1, nofun⟩
    refine obeys_guard ⟨reached.1, nofun⟩ fun fewer => ?_
    refine obeys_pure ⟨reached.1, fun _ mine same => ⟨count, reached.2 count rfl mine same, ?_⟩⟩
    have bound := limits same
    omega
  · have bound := limits mine
    omega

theorem obeys_userGroup :
    Obeys (discipline w) acct (getUserGroupByIdTx handle userId) fun after _ => after = acct :=
  obeys_guard rfl fun _ => obeys_other nofun fun _ _ => rfl

theorem obeys_upgradeUserGroup {upgradeGroup : String} :
    Obeys (discipline w) acct (upgradeUserGroup handle userId upgradeGroup) fun after _ =>
      added w.user w.planId after.pending = added w.user w.planId acct.pending ∧ after.count = acct.count := by
  refine obeys_skip ⟨rfl, rfl⟩ fun _ => obeys_after obeys_userGroup (fun _ => ⟨rfl, rfl⟩) fun currentGroup => ?_
  refine obeys_skip ⟨rfl, rfl⟩ fun _ => ?_
  exact obeys_bind (obeys_run rfl) (fun _ _ kept => obeys_pure kept) fun _ _ kept => kept

include pos

variable {tradeNo : String}

include clean

theorem obeys_create {source : Source} (limits : Limits w plan) :
    Passes w acct (createUserSubscriptionFromPlanTx handle clock userId tradeNo plan source) := by
  refine obeys_guard trivial fun _ => obeys_guard trivial fun _ => ?_
  refine passes_bind (obeys_checkPurchaseLimit pos clean limits) fun checked _ reached => ?_
  refine obeys_computed (fun _ => trivial) fun endUnix _ => ?_
  refine passes_bind obeys_upgradeUserGroup fun upgraded prevGroup kept => ?_
  have below : 0 < adds w.user w.planId (.createSub (newSubscription clock userId tradeNo plan source endUnix prevGroup)) →
      Below w.limit upgraded := by
    intro adding
    obtain ⟨mine, same⟩ := weight_pos adding
    obtain ⟨count, counted, fewer⟩ := reached.2 rfl mine same
    exact ⟨count, kept.2.trans counted, fewer⟩
  refine obeys_execute ?_ fun _ _ => trivial
  cases handle with
  | own =>
    refine fun adding => ⟨?_, below adding⟩
    rw [kept.1, reached.1]
    rfl
  | global => exact fun adding => Or.inr (below adding)

theorem obeys_bindGift : Passes w acct (bindGiftSubscription clock userId id) := by
  refine obeys_guard trivial fun _ => obeys_plan (fun _ => trivial) fun plan limits => ?_
  exact obeys_ite (fun _ => obeys_tx (obeys_create pos clean limits)) fun _ => obeys_throw trivial

theorem obeys_adminBind : Passes w acct (adminBindSubscription clock userId id) := by
  refine obeys_guard trivial fun _ => obeys_plan (fun _ => trivial) fun plan limits => ?_
  exact obeys_tx (obeys_create pos clean limits)

omit clean

omit pos in
theorem obeys_failOrder {order : SubscriptionOrder} : Passes w acct (failOrder order) :=
  obeys_attempt (obeys_run rfl) fun _ _ _ => obeys_pure trivial

omit pos in
theorem obeys_changeUserQuota {batch : Bool} {quota amount : Int} :
    Obeys (discipline w) acct (changeUserQuota batch userId quota amount) fun after _ => after = acct :=
  obeys_guard rfl fun _ => obeys_skip rfl fun _ =>
    obeys_bind (obeys_run_global trivial) (fun _ _ same => obeys_pure same) fun _ _ same => same

include clean

theorem obeys_payFromWallet {batch : Bool} {price : Int} (limits : Limits w plan) :
    Passes w acct (payFromWallet clock batch userId price plan tradeNo) := by
  refine obeys_attempt (obeys_run_global trivial) fun after res same => ?_
  rw [same]
  cases res with
  | error => exact obeys_pure trivial
  | ok =>
    refine obeys_attempt obeys_changeUserQuota fun after res same => ?_
    rw [same]
    cases res with
    | error => exact passes_bind obeys_failOrder fun _ _ _ => obeys_pure trivial
    | ok =>
      refine obeys_attempt (obeys_create pos clean limits) fun _ res _ => ?_
      cases res with
      | ok => exact obeys_pure trivial
      | error e =>
        refine obeys_attempt obeys_changeUserQuota fun _ _ _ => ?_
        exact passes_bind obeys_failOrder fun _ _ _ => obeys_pure trivial

theorem obeys_walletPay {batch : Bool} {quotaPerUnit : Int} :
    Passes w acct (subscriptionRequestWalletPay clock batch quotaPerUnit userId id tradeNo) := by
  have known : Obeys (discipline w) acct (walletPlan quotaPerUnit userId id) fun after res =>
      ∀ plan, res = .ok plan → after.pending = [] ∧ Limits w plan := by
    have failed : ∀ (after : Tally) (e : String) plan, (.error e : Except String Plan) = .ok plan →
        after.pending = [] ∧ Limits w plan := fun _ _ _ same => by cases same
    refine obeys_guard (failed _ _) fun _ => obeys_plan (failed _) fun plan limits => ?_
    refine obeys_guard (failed _ _) fun _ => obeys_guard (failed _ _) fun _ => ?_
    have checked : Obeys (discipline w) acct (checkWalletLimit userId plan) fun after _ =>
        after.pending = [] := by
      refine obeys_ite (fun _ => obeys_guard clean fun _ => ?_) fun _ => obeys_pure clean
      refine obeys_bind (obeys_count clean) (fun _ _ reached => ?_) fun _ _ reached => reached.1
      exact obeys_ite (fun _ => obeys_throw reached.1) fun _ => obeys_pure reached.1
    refine obeys_bind checked (fun after _ clean => obeys_find nofun (failed _) fun currentQuota => ?_) fun _ _ _ => failed _ _
    refine obeys_guard (failed _ _) fun _ => obeys_pure fun _ same => ?_
    cases same
    exact ⟨clean, limits⟩
  refine obeys_attempt known fun after res reached => ?_
  cases res with
  | error e => exact obeys_pure trivial
  | ok plan => exact obeys_payFromWallet pos (reached plan rfl).1 (reached plan rfl).2

end Purchases

/-! Redemptions and the ends of subscriptions. -/

theorem obeys_redeemAsSubscription {redemption : Redemption} :
    Passes w acct (redeemAsSubscription clock redemption userId) := by
  refine obeys_attempt obeys_getPlan fun _ res _ => ?_
  cases res with
  | error => exact obeys_throw trivial
  | ok plan =>
    refine obeys_guard trivial fun _ => obeys_computed (fun _ => trivial) fun _ _ => ?_
    refine passes_bind (obeys_run_global fun _ => Or.inl rfl) fun _ _ _ => ?_
    exact passes_bind (obeys_run rfl) fun _ _ _ => obeys_pure trivial

theorem obeys_redeemTx {key : String} : Passes w acct (redeemTx clock key userId) := by
  have looked : Passes w acct (find .own (.redemption key)) :=
    obeys_other nofun fun _ _ => trivial
  refine obeys_attempt_option looked (fun _ redemption _ => ?_) (fun _ _ => obeys_throw trivial)
    fun _ _ _ => obeys_throw trivial
  refine obeys_guard trivial fun _ => obeys_guard trivial fun _ => ?_
  refine obeys_ite (fun _ => obeys_redeemAsSubscription) fun _ => ?_
  refine passes_bind (obeys_run rfl) fun _ _ _ => ?_
  exact passes_bind (obeys_run rfl) fun _ _ _ => obeys_pure trivial

theorem obeys_redeem {key : String} : Passes w acct (redeem clock key userId) := by
  refine obeys_guard trivial fun _ => obeys_guard trivial fun _ => ?_
  refine obeys_attempt (obeys_tx obeys_redeemTx) fun _ res _ => ?_
  cases res with
  | error => exact obeys_throw trivial
  | ok redemption =>
    refine obeys_ite (fun _ => obeys_attempt obeys_getPlan fun _ res _ => ?_) fun _ => obeys_pure trivial
    cases res <;> exact obeys_pure trivial

theorem obeys_group {group : String} : Passes w acct (run handle (.group userId group)) :=
  obeys_mono (obeys_run rfl) fun _ _ _ => trivial

theorem obeys_downgrade : Passes w acct (downgradeUserGroupForSubscriptionTx sub now) := by
  refine obeys_skip trivial fun _ => obeys_after obeys_userGroup (fun _ => trivial) fun currentGroup => ?_
  refine obeys_skip trivial fun _ => ?_
  have looked : Passes w acct (find .own (.activeUpgraded sub.userId now (some sub.id))) :=
    obeys_other nofun fun _ _ => trivial
  exact obeys_attempt_option looked (fun _ _ _ => obeys_pure trivial)
    (fun _ _ => obeys_skip trivial fun _ => obeys_group)
    fun _ _ _ => obeys_skip trivial fun _ => obeys_group

theorem obeys_findSubscription {rest : Subscription → Action schema α} (continues : ∀ sub, Passes w acct (rest sub)) :
    Passes w acct (findSubscription id >>= rest) := by
  refine obeys_after (obeys_find nofun (fun _ => rfl) fun found => ?_) (fun _ => trivial) continues
  cases found with
  | none => exact obeys_throw rfl
  | some sub => exact obeys_pure rfl

theorem obeys_invalidate : Passes w acct (adminInvalidateUserSubscription now id) := by
  refine obeys_guard trivial fun _ => obeys_tx (obeys_findSubscription fun sub => ?_)
  exact passes_bind (obeys_run rfl) fun _ _ _ => obeys_downgrade

theorem obeys_delete : Passes w acct (adminDeleteUserSubscription now id) := by
  refine obeys_guard trivial fun _ => obeys_tx (obeys_findSubscription fun sub => ?_)
  refine passes_bind obeys_downgrade fun _ _ _ => ?_
  exact obeys_mono (obeys_run rfl) fun _ _ _ => trivial

theorem obeys_expireUser : Passes w acct (expireUser now userId) := by
  refine passes_bind (obeys_run rfl) fun acct _ _ => ?_
  have looked : ∀ acct, Passes w acct (find .own (.lastExpired userId)) := fun _ =>
    obeys_other nofun fun _ _ => trivial
  have lapses : ∀ acct last, Passes w acct (downgradeAfterExpiry userId last) := by
    refine fun acct last => obeys_skip trivial fun _ => obeys_after obeys_userGroup (fun _ => trivial) fun _ => ?_
    exact obeys_skip trivial fun _ => obeys_group
  have active : Passes w acct (find .own (.activeUpgraded userId now none)) :=
    obeys_other nofun fun _ _ => trivial
  refine obeys_attempt_option active (fun _ _ _ => obeys_pure trivial) (fun acct _ => ?_) fun acct _ _ => ?_
  iterate 2
    · exact obeys_attempt_option (looked acct) (fun acct last _ => lapses acct last) (fun _ _ => obeys_pure trivial)
        fun _ _ _ => obeys_pure trivial

theorem obeys_expire {limit' : Int} : Passes w acct (expireDueSubscriptions now limit') :=
  obeys_find nofun (fun _ => trivial) fun _ =>
    obeys_loop (fun _ _ _ _ _ => obeys_tx obeys_expireUser) trivial

theorem obeys_operation (pos : 0 < w.limit) (operation : Operation) :
    Obeys (discipline w) ⟨[], none⟩ (operation.script clock) anyway := by
  cases operation with
  | bindGift => exact obeys_bindGift pos rfl
  | adminBind => exact obeys_adminBind pos rfl
  | walletPay => exact passes_bind (obeys_walletPay pos rfl) fun _ _ _ => obeys_pure trivial
  | redeem => exact passes_bind obeys_redeem fun _ _ _ => obeys_pure trivial
  | invalidate => exact obeys_invalidate
  | delete => exact obeys_delete
  | expire => exact obeys_expire

end Operations

/-- Whatever the schedule and the driver's answers: as long as no purchase is disturbed and no code is redeemed beyond
the limit, the user never has more subscriptions of the plan than the limit. -/
theorem purchases_within_limit {user planId : Int} {store : Store} {plan : Plan} (found : store.plans.lookup planId = some plan)
    (limited : 0 < plan.maxPurchasePerUser) (within : number user planId store ≤ plan.maxPurchasePerUser)
    {faults : List (Option String)} {calls : List (Clock × Operation)} {schedule : List Nat}
    {machine : Machine (@Answer schema) (Shared schema) (Except String Unit)}
    (undisturbed : Runs.Guarded (step exec) (whenPerforming (Undisturbed user planId plan.maxPurchasePerUser))
      (launch store faults (calls.map fun call => call.2.script call.1)) schedule)
    (run : Runs.exec (step exec) (launch store faults (calls.map fun call => call.2.script call.1)) schedule = some machine) :
    number user planId machine.shared.db ≤ plan.maxPurchasePerUser := by
  have start : Held user planId plan.maxPurchasePerUser { quiet store with faults := faults } fun _ => ⟨[], none⟩ := by
    refine ⟨within, fun other same => ?_, fun pid => ⟨rfl, Int.zero_le_ofNat 1, fun pos => ?_, fun _ same => ?_⟩⟩
    · cases found.symm.trans same
      rfl
    · cases pos
    · cases same
  have obeys : ∀ program ∈ calls.map fun call => call.2.script call.1,
      Passes ⟨user, planId, plan.maxPurchasePerUser⟩ ⟨[], none⟩ program := by
    intro program mem
    obtain ⟨call, _, rfl⟩ := mem_map.mp mem
    exact obeys_operation limited call.2
  have coherent := launch_coherent start obeys
  obtain ⟨_, accts, held, _⟩ := coherent_run (held_preserved user planId plan.maxPurchasePerUser _) coherent undisturbed run
  exact held.within

def limitedPlan (limit : Int) : Plan := { monthlyPlan with maxPurchasePerUser := limit }

def limitedStore (limit : Int) : Store := { emptyStore with
  users := emptyStore.users.save ⟨7, "default", 0⟩
  plans := emptyStore.plans.save (limitedPlan limit) }

def bindings : List (Clock × Operation) := [(⟨100, 0⟩, .adminBind 7 1), (⟨100, 0⟩, .adminBind 7 1)]

/-- One binding after the other. -/
theorem bindings_within_limit : ∃ machine,
    Runs.exec (step exec) (launch (limitedStore 2) [] (bindings.map fun call => call.2.script call.1))
      [0, 0, 0, 0, 1, 1, 1, 1] = some machine ∧ number 7 1 machine.shared.db ≤ 2 := by
  have found : (limitedStore 2).plans.lookup 1 = some (limitedPlan 2) := by decide
  refine exists_end_of (by decide +kernel) fun machine run => ?_
  exact purchases_within_limit found (by decide) (by decide) (by decide +kernel) run

/-- Both bindings count the subscriptions of the user before either inserts one. -/
theorem concurrent_bindings_exceed_limit : ∃ machine,
    Runs.exec (step exec) (launch (limitedStore 1) [] (bindings.map fun call => call.2.script call.1))
      [0, 1, 0, 1, 0, 0, 1, 1] = some machine ∧
    machine.shared.db.plans.lookup 1 = some (limitedPlan 1) ∧ number 7 1 machine.shared.db = 2 :=
  exists_end (by decide +kernel)

end Tokengine.Plans.PurchaseLimit
