import Tokengine.Plans.Store

/-! What each operation makes of the rows that decide a user's group, and when the group is right: an
upgrading subscription that is alone holds the user in its group and remembers the original one. -/

namespace Tokengine.Plans.Groups
open Model List Option Table Text

/-! The subscription that ends last. -/

section Order

variable {subs : List Subscription} {keep : Subscription → Bool} {sub : Subscription}

instance : Std.Total endsLater := ⟨fun first second => by unfold endsLater; omega⟩

instance : IsTrans Subscription endsLater := ⟨fun first second third => by unfold endsLater; omega⟩

theorem firstToEnd_none (none : firstToEnd subs keep = none) (member : sub ∈ subs) : keep sub = false := by
  rw [firstToEnd, head?_eq_none_iff, ← length_eq_zero_iff, length_insertionSort, length_eq_zero_iff,
    filter_eq_nil_iff] at none
  exact Bool.eq_false_iff.mpr (none sub member)

theorem firstToEnd_some (found : firstToEnd subs keep = some sub) :
    sub ∈ subs ∧ keep sub = true ∧ ∀ other ∈ subs, keep other = true → endsLater sub other := by
  unfold firstToEnd at found
  have listed : sub ∈ (subs.filter keep).insertionSort endsLater := mem_of_mem_head? found
  rw [mem_insertionSort, List.mem_filter] at listed
  refine ⟨listed.1, listed.2, fun other member kept => ?_⟩
  have sorted := pairwise_insertionSort endsLater (subs.filter keep)
  have present : other ∈ (subs.filter keep).insertionSort endsLater :=
    (mem_insertionSort _).mpr (List.mem_filter.mpr ⟨member, kept⟩)
  revert found sorted present
  cases (subs.filter keep).insertionSort endsLater with
  | nil => exact nofun
  | cons first rest =>
    intro found sorted present
    cases found
    rcases mem_cons.mp present with rfl | later
    · exact Or.inr ⟨rfl, le_refl _⟩
    · exact (pairwise_cons.mp sorted).1 other later

end Order

/-! The invariant. -/

def Upgrades (user : Int) (sub : Subscription) : Prop := sub.userId = user ∧ sub.upgradeGroup ≠ ""

structure Live (user : Int) (db : Store) (sub : Subscription) : Prop where
  member : sub ∈ db.subs.rows
  upgrades : Upgrades user sub
  active : sub.status = .active

structure Ended (user : Int) (db : Store) (sub : Subscription) : Prop where
  member : sub ∈ db.subs.rows
  upgrades : Upgrades user sub
  expired : sub.status = .expired

def userGroup (user : Int) (db : Store) : String := ((db.users.lookup user).map Member.group).getD ""

structure Remembers (orig : String) (sub : Subscription) : Prop where
  prev : sub.prevUserGroup = "" ∨ sub.prevUserGroup = orig
  redeemed : sub.source = .redemption → sub.prevUserGroup = ""
  trimmed : sub.source ≠ .redemption → trimSpace sub.upgradeGroup = sub.upgradeGroup

/-- The rows, whatever the group: at most one upgrading subscription is active, and it ends after those that
have expired. -/
structure Tidy (orig : String) (user now : Int) (db : Store) : Prop where
  fresh : ∀ sub ∈ db.subs.rows, sub.id < db.nextSubId
  remembers : ∀ sub ∈ db.subs.rows, Upgrades user sub → Remembers orig sub
  single : ∀ first second, Live user db first → Live user db second → first = second
  started : ∀ sub, Live user db sub → 0 < sub.endTime
  past : ∀ sub, Ended user db sub → sub.endTime ≤ now
  ordered : ∀ ended live, Ended user db ended → Live user db live → endsLater live ended

structure Fits (orig group : String) (sub : Subscription) : Prop where
  bought : sub.source ≠ .redemption → group = sub.upgradeGroup ∧ (sub.prevUserGroup = "" → group = orig)
  redeemed : sub.source = .redemption → group = orig

structure Restorable (orig : String) (user now : Int) (db : Store) : Prop where
  tidy : Tidy orig user now db
  present : (db.users.lookup user).isSome
  held : ∀ sub, Live user db sub → Fits orig (userGroup user db) sub
  restored : (∀ sub, ¬Live user db sub) → userGroup user db = orig

structure Named (orig : String) : Prop where
  nonempty : orig ≠ ""
  trimmed : trimSpace orig = orig

section Stores

variable {orig group : String} {user userId now : Int} {db view : Store} {sub row : Subscription} {skipped : Option Int}

variable (tidy : Tidy orig user now db)

include tidy in
theorem Tidy.later (elapsed : Nat) : Tidy orig user (now + elapsed) db := by
  refine { tidy with past := fun sub ended => ?_ }
  have := tidy.past sub ended
  omega

variable (restorable : Restorable orig user now db)

include restorable in
theorem Restorable.later (elapsed : Nat) :
    Restorable orig user (now + elapsed) db := { restorable with tidy := restorable.tidy.later elapsed }

include tidy in
theorem Tidy.of_rows (fresh : ∀ sub ∈ view.subs.rows, sub.id < view.nextSubId)
    (remembers : ∀ sub ∈ view.subs.rows, Upgrades user sub → Remembers orig sub)
    (lives : ∀ sub, Live user view sub → Live user db sub) (ends : ∀ sub, Ended user view sub → Ended user db sub) :
    Tidy orig user now view where
  fresh := fresh
  remembers := remembers
  single first second live live' := tidy.single first second (lives first live) (lives second live')
  started sub live := tidy.started sub (lives sub live)
  past sub ended := tidy.past sub (ends sub ended)
  ordered ended live isEnded isLive := tidy.ordered ended live (ends ended isEnded) (lives live isLive)

theorem live_congr (subs : view.subs = db.subs) : Live user view sub ↔ Live user db sub :=
  ⟨fun live => ⟨subs ▸ live.member, live.upgrades, live.active⟩,
    fun live => ⟨subs ▸ live.member, live.upgrades, live.active⟩⟩

include tidy in
theorem Tidy.congr (subs : view.subs = db.subs) (next : view.nextSubId = db.nextSubId) : Tidy orig user now view := by
  refine tidy.of_rows ?_ ?_ (fun _ => (live_congr subs).mp) fun _ ended =>
    ⟨subs ▸ ended.member, ended.upgrades, ended.expired⟩
  · rw [subs, next]
    exact tidy.fresh
  · rw [subs]
    exact tidy.remembers

theorem userGroup_congr (same : view.users = db.users) : userGroup user view = userGroup user db := by
  unfold userGroup
  rw [same]

variable (present : (db.users.lookup user).isSome)

include present

theorem present_group (userId : Int) (group : String) : ((apply (.group userId group) db).users.lookup user).isSome := by
  refine Eq.trans ?_ present
  exact isSome_lookup_update (fun user : Member => { user with group := group }) (fun _ => rfl) db.users userId user

theorem userGroup_group (userId : Int) (group : String) :
    userGroup user (apply (.group userId group) db) = if userId = user then group else userGroup user db := by
  change ((((db.users.update userId fun user => { user with group := group }).lookup user).map Member.group).getD "") = _
  rw [lookup_update (fun user : Member => { user with group := group }) (fun _ => rfl)]
  by_cases same : userId = user
  · obtain ⟨row, found⟩ := isSome_iff_exists.mp present
    rw [if_pos same.symm, if_pos same, same, found]
    rfl
  · rw [if_neg (Ne.symm same), if_neg same]
    rfl

omit present

def regroup (userId : Int) (group : Option String) (db : Store) : Store :=
  match group with
  | none => db
  | some group => apply (.group userId group) db

theorem regroup_subs (userId : Int) (group : Option String) (db : Store) : (regroup userId group db).subs = db.subs := by
  cases group <;> rfl

theorem regroup_nextSubId (userId : Int) (group : Option String) (db : Store) :
    (regroup userId group db).nextSubId = db.nextSubId := by
  cases group <;> rfl

include present

theorem present_regroup (userId : Int) (group : Option String) : ((regroup userId group db).users.lookup user).isSome := by
  cases group with
  | none => exact present
  | some group => exact present_group present userId group

theorem userGroup_regroup (userId : Int) (group : Option String) : userGroup user (regroup userId group db) =
      if userId = user then group.getD (userGroup user db) else userGroup user db := by
  cases group with
  | none => rw [getD_none, ite_self]; rfl
  | some group => exact userGroup_group present userId group

omit present

include present in
include tidy in
/-- The user is moved to another group, or stays. -/
theorem Restorable.regroup {group : Option String} (held : ∀ row, Live user db row →
      Fits orig (if userId = user then group.getD (userGroup user db) else userGroup user db) row)
    (restored : (∀ row, ¬Live user db row) →
      (if userId = user then group.getD (userGroup user db) else userGroup user db) = orig) :
    Restorable orig user now (regroup userId group db) := by
  have rows : (Groups.regroup userId group db).subs = db.subs := regroup_subs ..
  rw [← userGroup_regroup present] at restored
  refine ⟨tidy.congr rows (regroup_nextSubId ..), present_regroup present _ _, fun row live => ?_, fun none => restored ?_⟩
  · rw [userGroup_regroup present]
    exact held row ((live_congr rows).mp live)
  · exact fun row live => none row ((live_congr rows).mpr live)

theorem activeUpgraded_of_live (live : Live user db row) (ahead : now < row.endTime)
    (other : skipped ≠ some row.id) : (answer (.activeUpgraded user now skipped) db).isSome := by
  rw [isSome_iff_ne_none]
  intro none
  have refused := firstToEnd_none none live.member
  simp [isUpgraded, live.upgrades.1, live.active, ahead, other, live.upgrades.2] at refused

theorem activeUpgraded_alone (none : ∀ row, Live user db row → skipped = some row.id) :
    (answer (.activeUpgraded user now skipped) db).isSome = false := by
  cases found : answer (.activeUpgraded user now skipped) db with
  | none => rfl
  | some row =>
    obtain ⟨listed, keeps, _⟩ := firstToEnd_some found
    simp only [isUpgraded, Bool.and_eq_true, beq_iff_eq, bne_iff_ne, decide_eq_true_eq, ne_eq] at keeps
    obtain ⟨⟨⟨⟨owner, active⟩, _⟩, other⟩, names⟩ := keeps
    exact absurd (none row ⟨listed, ⟨owner, names⟩, active⟩) other

/-! Cancelling and deleting. -/

/-- The group that `downgradeUserGroupForSubscriptionTx` moves the user to. -/
def downgraded (sub : Subscription) (now : Int) (view : Store) : Option String :=
  if trimSpace sub.upgradeGroup = "" then none
  else if userGroup sub.userId view ≠ trimSpace sub.upgradeGroup then none
  else if (answer (.activeUpgraded sub.userId now (some sub.id)) view).isSome then none
  else if trimSpace sub.prevUserGroup = "" ∨ trimSpace sub.prevUserGroup = userGroup sub.userId view then none
  else some (trimSpace sub.prevUserGroup)

structure Without (id : Int) (db view : Store) : Prop where
  users : view.users = db.users
  kept : ∀ row ∈ db.subs.rows, row.id ≠ id → row ∈ view.subs.rows
  only : ∀ row ∈ view.subs.rows, row.id ≠ id → row ∈ db.subs.rows

variable (id : Int) {after : Store}

theorem Without.refl (db : Store) : Without id db db := ⟨rfl, fun _ member _ => member, fun _ member _ => member⟩

theorem downgraded_other (mine : sub.userId = user) (without : Without sub.id db view) (live : Live user db row)
    (other : row.id ≠ sub.id) (ahead : now < row.endTime) : downgraded sub now view = none := by
  have found : (answer (.activeUpgraded sub.userId now (some sub.id)) view).isSome := by
    rw [mine]
    refine activeUpgraded_of_live ⟨without.kept row live.member other, live.upgrades, live.active⟩ ahead fun same => ?_
    exact other (Option.some.inj same).symm
  unfold downgraded
  split
  · rfl
  · split <;> rfl

theorem downgraded_back (named : Named orig) (remembers : Upgrades user sub → Remembers orig sub)
    (mine : sub.userId = user) {group : String} (moved : downgraded sub now view = some group) : group = orig := by
  unfold downgraded at moved
  split at moved
  · cases moved
  next upgrades =>
  split at moved
  · cases moved
  split at moved
  · cases moved
  split at moved
  · cases moved
  next remembered =>
  cases moved
  have names : sub.upgradeGroup ≠ "" := fun empty => upgrades (by rw [empty]; rfl)
  rcases (remembers ⟨mine, names⟩).prev with none | same
  · exact absurd (Or.inl (by rw [none]; rfl)) remembered
  · rw [same, named.trimmed]

theorem downgraded_last (named : Named orig) (restorable : Restorable orig user now db) (member : sub ∈ db.subs.rows)
    (mine : sub.userId = user) (without : Without sub.id db view) (last : ∀ row, Live user db row → row.id = sub.id) :
    (downgraded sub now view).getD (userGroup user db) = orig := by
  have remembers := restorable.tidy.remembers sub member
  have sameGroup : userGroup sub.userId view = userGroup user db := by
    rw [userGroup_congr without.users, mine]
  cases moved : downgraded sub now view with
  | some group => exact downgraded_back named remembers mine moved
  | none =>
    by_cases live : Live user db sub
    · have fits := restorable.held sub live
      by_cases bought : sub.source = .redemption
      · exact fits.redeemed bought
      obtain ⟨group, unmoved⟩ := fits.bought bought
      have noted := remembers live.upgrades
      rcases noted.prev with none | same
      · exact unmoved none
      by_contra ne
      have alone : (answer (.activeUpgraded sub.userId now (some sub.id)) view).isSome = false := by
        refine activeUpgraded_alone fun row other => ?_
        by_contra elsewhere
        have elsewhere : row.id ≠ sub.id := fun equal => elsewhere (by rw [equal])
        exact elsewhere (last row ⟨without.only row other.member elsewhere, mine ▸ other.upgrades, other.active⟩)
      have names : trimSpace sub.upgradeGroup ≠ "" := by
        rw [noted.trimmed bought]
        exact live.upgrades.2
      unfold downgraded at moved
      rw [if_neg names, noted.trimmed bought, sameGroup, if_neg (not_not.mpr group), alone, if_neg Bool.false_ne_true,
        same, named.trimmed, if_neg] at moved
      · cases moved
      · rintro (empty | equal)
        · exact named.nonempty empty
        · exact ne equal.symm
    · refine restorable.restored fun row other => live ?_
      have equal := last row other
      have same : row = sub := inj_on_of_nodup_map db.subs.distinct other.member member equal
      exact same ▸ other

structure Removes (id now : Int) (db after : Store) : Prop where
  nextSubId : after.nextSubId = db.nextSubId
  kept : ∀ row ∈ db.subs.rows, row.id ≠ id → row ∈ after.subs.rows
  rows : ∀ row ∈ after.subs.rows, row ∈ db.subs.rows ∧ row.id ≠ id ∨
    row.id = id ∧ ∃ old ∈ db.subs.rows, row = { old with status := .cancelled, endTime := now }

section Removal

variable {id : Int}

theorem Removes.live (removes : Removes id now db after) (live : Live user after row) : Live user db row ∧ row.id ≠ id := by
  rcases removes.rows row live.member with ⟨member, other⟩ | ⟨_, old, _, rfl⟩
  · exact ⟨⟨member, live.upgrades, live.active⟩, other⟩
  · cases live.active

theorem Removes.ended (removes : Removes id now db after) (ended : Ended user after row) : Ended user db row := by
  rcases removes.rows row ended.member with ⟨member, _⟩ | ⟨_, old, _, rfl⟩
  · exact ⟨member, ended.upgrades, ended.expired⟩
  · cases ended.expired

theorem Tidy.remove (tidy : Tidy orig user now db) (removes : Removes id now db after) : Tidy orig user now after := by
  refine tidy.of_rows (fun row member => ?_) (fun row member upgrades => ?_) (fun _ live => (removes.live live).1)
    fun _ => removes.ended
  · rw [removes.nextSubId]
    rcases removes.rows row member with ⟨old, _⟩ | ⟨_, old, listed, rfl⟩
    · exact tidy.fresh row old
    · exact tidy.fresh old listed
  · rcases removes.rows row member with ⟨old, _⟩ | ⟨_, old, listed, rfl⟩
    · exact tidy.remembers row old upgrades
    · exact { tidy.remembers old listed upgrades with }

/-- A subscription is cancelled or deleted, and the user is moved back as the code decides. -/
theorem Restorable.remove (restorable : Restorable orig user now db) (named : Named orig)
    (member : sub ∈ db.subs.rows) (without : Without sub.id db view) (removes : Removes sub.id now db after)
    (users : after.users = db.users)
    (ahead : sub.userId = user → ∀ row, Live user db row → row.id ≠ sub.id → now < row.endTime) :
    Restorable orig user now (Groups.regroup sub.userId (downgraded sub now view) after) := by
  have same : userGroup user after = userGroup user db := userGroup_congr users
  refine .regroup (restorable.tidy.remove removes) (by rw [users]; exact restorable.present) ?_ ?_ <;> rw [same]
  · intro row live
    obtain ⟨before, other⟩ := removes.live live
    split
    next mine =>
      rw [downgraded_other mine without before other (ahead mine row before other), getD_none]
      exact restorable.held row before
    · exact restorable.held row before
  · intro none
    have last : ∀ row, Live user db row → row.id = sub.id := by
      intro row live
      by_contra other
      exact none row ⟨removes.kept row live.member other, live.upgrades, live.active⟩
    split
    next mine => exact downgraded_last named restorable member mine without last
    next foreign =>
      refine restorable.restored fun row live => foreign ?_
      have same : row = sub := inj_on_of_nodup_map db.subs.distinct live.member member (last row live)
      exact same ▸ live.upgrades.1

end Removal

theorem cancel_rows (found : db.subs.lookup sub.id = some sub) (now : Int) (row : Subscription) :
    row ∈ (apply (.cancelSub sub.id now) db).subs.rows ↔
      row = { sub with status := .cancelled, endTime := now } ∨ row ∈ db.subs.rows ∧ row.id ≠ sub.id := by
  change row ∈ (db.subs.update sub.id fun sub => { sub with status := .cancelled, endTime := now }).rows ↔ _
  rw [update_of_lookup found]
  exact mem_save

/-- The store after `AdminInvalidateUserSubscription`. -/
def invalidated (now : Int) (sub : Subscription) (db : Store) : Store :=
  regroup sub.userId (downgraded sub now (apply (.cancelSub sub.id now) db)) (apply (.cancelSub sub.id now) db)

/-- The store after `AdminDeleteUserSubscription`. -/
def deleted (now : Int) (sub : Subscription) (db : Store) : Store :=
  apply (.deleteSub sub.id) (regroup sub.userId (downgraded sub now db) db)

variable (named : Named orig) (found : db.subs.lookup sub.id = some sub) (ahead : sub.userId = user → ∀ row, Live user db row → row.id ≠ sub.id → now < row.endTime)

include named found ahead in
include restorable in
theorem restorable_invalidated : Restorable orig user now (invalidated now sub db) := by
  have member := (lookup_some found).1
  have removes : Removes sub.id now db (apply (.cancelSub sub.id now) db) := by
    refine ⟨rfl, fun row listed other => (cancel_rows found now row).mpr (Or.inr ⟨listed, other⟩), fun row listed => ?_⟩
    rcases (cancel_rows found now row).mp listed with rfl | old
    · exact Or.inr ⟨rfl, sub, member, rfl⟩
    · exact Or.inl old
  refine restorable.remove named member ⟨rfl, removes.kept, fun row listed other => ?_⟩ removes rfl ahead
  exact ((removes.rows row listed).resolve_right fun cancelled => other cancelled.1).1

theorem regroup_delete (group : Option String) :
    apply (.deleteSub id) (regroup userId group db) = regroup userId group (apply (.deleteSub id) db) := by
  cases group <;> rfl

include named found ahead in
include restorable in
theorem restorable_deleted : Restorable orig user now (deleted now sub db) := by
  have rows : ∀ row, row ∈ (apply (.deleteSub sub.id) db).subs.rows ↔ row ∈ db.subs.rows ∧ row.id ≠ sub.id := fun _ =>
    mem_delete
  have removes : Removes sub.id now db (apply (.deleteSub sub.id) db) :=
    ⟨rfl, fun row listed other => (rows row).mpr ⟨listed, other⟩, fun row listed => Or.inl ((rows row).mp listed)⟩
  rw [deleted, regroup_delete]
  exact restorable.remove named (lookup_some found).1 (Without.refl _ _) removes rfl ahead

/-! Expiry. -/

def lapsedTo (userId : Int) (last : Subscription) (view : Store) : Option String :=
  if trimSpace last.upgradeGroup = "" ∨ trimSpace last.prevUserGroup = "" then none
  else if userGroup userId view ≠ trimSpace last.upgradeGroup ∨
      userGroup userId view = trimSpace last.prevUserGroup then none
  else some (trimSpace last.prevUserGroup)

def expiryGroup (userId now : Int) (view : Store) : Option String :=
  if (answer (.activeUpgraded userId now none) view).isSome then none
  else match answer (.lastExpired userId) view with
    | none => none
    | some last => lapsedTo userId last view

def expired (now userId : Int) (db : Store) : Store :=
  regroup userId (expiryGroup userId now (apply (.expireDue userId now) db)) (apply (.expireDue userId now) db)

theorem expire_rows (row : Subscription) :
    row ∈ (apply (.expireDue userId now) db).subs.rows ↔ ∃ old ∈ db.subs.rows, expireRow userId now old = row :=
  mem_modify (expireRow_id userId now)

theorem expireRow_cases (userId now : Int) (row : Subscription) :
    expireRow userId now row = row ∧ ¬(row.userId = userId ∧ isOverdue now row = true) ∨
      (row.userId = userId ∧ isOverdue now row = true) ∧ expireRow userId now row = { row with status := .expired } := by
  unfold expireRow
  split
  next due => exact Or.inr ⟨due, rfl⟩
  next due => exact Or.inl ⟨rfl, due⟩

theorem live_expire (live : Live user (apply (.expireDue userId now) db) row) :
    Live user db row ∧ ¬(row.userId = userId ∧ isOverdue now row = true) := by
  obtain ⟨old, member, same⟩ := (expire_rows row).mp live.member
  rcases expireRow_cases userId now old with ⟨unchanged, due⟩ | ⟨_, changed⟩
  · rw [unchanged] at same
    subst same
    exact ⟨⟨member, live.upgrades, live.active⟩, due⟩
  · rw [changed] at same
    subst same
    cases live.active

theorem live_kept (live : Live user db row) (due : ¬(row.userId = userId ∧ isOverdue now row = true)) :
    Live user (apply (.expireDue userId now) db) row := by
  refine ⟨(expire_rows row).mpr ⟨row, live.member, ?_⟩, live.upgrades, live.active⟩
  exact if_neg due

theorem ended_expire (ended : Ended user (apply (.expireDue userId now) db) row) :
    Ended user db row ∨ ∃ old, Live user db old ∧ isOverdue now old = true ∧ row = { old with status := .expired } := by
  obtain ⟨old, member, same⟩ := (expire_rows row).mp ended.member
  rcases expireRow_cases userId now old with ⟨unchanged, due⟩ | ⟨due, changed⟩
  · rw [unchanged] at same
    subst same
    exact Or.inl ⟨member, ended.upgrades, ended.expired⟩
  · rw [changed] at same
    subst same
    have overdue := due.2
    simp only [isOverdue, Bool.and_eq_true, beq_iff_eq] at overdue
    exact Or.inr ⟨old, ⟨member, ended.upgrades, overdue.1.1⟩, due.2, rfl⟩

theorem overdue_end (overdue : isOverdue now row = true) : row.endTime ≤ now := by
  simp only [isOverdue, Bool.and_eq_true, decide_eq_true_eq] at overdue
  exact overdue.2

include tidy in
theorem Tidy.expire (userId : Int) : Tidy orig user now (apply (.expireDue userId now) db) where
  fresh row member := by
    obtain ⟨old, listed, rfl⟩ := (expire_rows row).mp member
    rcases expireRow_cases userId now old with ⟨same, _⟩ | ⟨_, same⟩ <;> rw [same] <;> exact tidy.fresh old listed
  remembers row member upgrades := by
    obtain ⟨old, listed, rfl⟩ := (expire_rows row).mp member
    rcases expireRow_cases userId now old with ⟨same, _⟩ | ⟨_, same⟩
    · rw [same] at upgrades ⊢
      exact tidy.remembers old listed upgrades
    · rw [same] at upgrades ⊢
      exact { tidy.remembers old listed upgrades with }
  single first second live live' := tidy.single first second (live_expire live).1 (live_expire live').1
  started row live := tidy.started row (live_expire live).1
  past row ended := by
    rcases ended_expire ended with before | ⟨old, _, overdue, rfl⟩
    · exact tidy.past row before
    · have ends := overdue_end overdue
      exact ends
  ordered ended live isEnded isLive := by
    obtain ⟨before, notDue⟩ := live_expire isLive
    rcases ended_expire isEnded with old | ⟨old, oldLive, overdue, rfl⟩
    · exact tidy.ordered ended live old before
    · cases tidy.single old live oldLive before
      -- the live subscription is another user's than the one whose subscriptions expire
      exact Or.inr ⟨rfl, le_refl _⟩

theorem expiryGroup_back (named : Named orig)
    (remembers : ∀ row ∈ view.subs.rows, Upgrades user row → Remembers orig row) {group : String}
    (moved : expiryGroup user now view = some group) : group = orig := by
  unfold expiryGroup at moved
  split at moved
  · cases moved
  split at moved
  · cases moved
  next last found =>
  obtain ⟨listed, keeps, _⟩ := firstToEnd_some found
  simp only [isExpiredUpgrade, Bool.and_eq_true, beq_iff_eq, bne_iff_ne, ne_eq] at keeps
  unfold lapsedTo at moved
  split at moved
  · cases moved
  next remembered =>
  split at moved
  · cases moved
  cases moved
  rcases (remembers last listed ⟨keeps.1.1, keeps.2⟩).prev with none | same
  · exact absurd (Or.inr (by rw [none]; rfl)) remembered
  · rw [same, named.trimmed]

theorem expiryGroup_live (live : Live user view row) (ahead : now < row.endTime) : expiryGroup user now view = none := by
  rw [expiryGroup, if_pos (activeUpgraded_of_live live ahead (by simp))]

include tidy in
theorem lastExpired_due (live : Live user db row) (overdue : isOverdue now row = true) :
    answer (.lastExpired user) (apply (.expireDue user now) db) = some { row with status := .expired } := by
  have listed : { row with status := .expired } ∈ (apply (.expireDue user now) db).subs.rows :=
    (expire_rows _).mpr ⟨row, live.member, if_pos ⟨live.upgrades.1, overdue⟩⟩
  have keeps : isExpiredUpgrade user { row with status := .expired } = true := by
    simp [isExpiredUpgrade, live.upgrades.1, live.upgrades.2]
  cases found : answer (.lastExpired user) (apply (.expireDue user now) db) with
  | none => exact absurd keeps (Bool.eq_false_iff.mp (firstToEnd_none found listed))
  | some last =>
    obtain ⟨member, kept, latest⟩ := firstToEnd_some found
    simp only [isExpiredUpgrade, Bool.and_eq_true, beq_iff_eq, bne_iff_ne, ne_eq] at kept
    rcases ended_expire ⟨member, ⟨kept.1.1, kept.2⟩, kept.1.2⟩ with before | ⟨old, oldLive, _, rfl⟩
    · -- a subscription that had expired before is not the last to end
      have first := latest _ listed keeps
      have second := tidy.ordered last row before live
      have same : last.id = row.id := by
        unfold endsLater at first second
        dsimp only at first
        omega
      have equal : last = row := inj_on_of_nodup_map db.subs.distinct before.member live.member same
      cases (equal ▸ before.expired).symm.trans live.active
    · rw [tidy.single old row oldLive live]

theorem expiryGroup_due (named : Named orig) (restorable : Restorable orig user now db) (live : Live user db row)
    (overdue : isOverdue now row = true) :
    (expiryGroup user now (apply (.expireDue user now) db)).getD (userGroup user db) = orig := by
  have remembers := (restorable.tidy.expire user).remembers
  cases moved : expiryGroup user now (apply (.expireDue user now) db) with
  | some group => exact expiryGroup_back named remembers moved
  | none =>
    have fits := restorable.held row live
    by_cases redeemed : row.source = .redemption
    · exact fits.redeemed redeemed
    obtain ⟨group, unmoved⟩ := fits.bought redeemed
    have noted := restorable.tidy.remembers row live.member live.upgrades
    rcases noted.prev with none | same
    · exact unmoved none
    by_contra ne
    have alone : (answer (.activeUpgraded user now none) (apply (.expireDue user now) db)).isSome = false := by
      refine activeUpgraded_alone fun other after => ?_
      obtain ⟨before, notDue⟩ := live_expire after
      cases restorable.tidy.single other row before live
      exact absurd ⟨live.upgrades.1, overdue⟩ notDue
    have sameGroup : userGroup user (apply (.expireDue user now) db) = userGroup user db := rfl
    rw [expiryGroup, alone, if_neg Bool.false_ne_true, lastExpired_due restorable.tidy live overdue] at moved
    dsimp only [lapsedTo] at moved
    rw [noted.trimmed redeemed, same, named.trimmed, if_neg, if_neg] at moved
    · cases moved
    · rintro (other | equal)
      · exact other group
      · exact ne equal
    · rintro (empty | empty)
      · exact live.upgrades.2 empty
      · exact named.nonempty empty

include restorable

theorem restorable_expired (named : Named orig) (userId : Int) : Restorable orig user now (expired now userId db) := by
  have present : ((apply (.expireDue userId now) db).users.lookup user).isSome := restorable.present
  have tidy := restorable.tidy.expire userId
  have same : userGroup user (apply (.expireDue userId now) db) = userGroup user db := rfl
  refine .regroup tidy present (fun row after => ?_) fun none => ?_ <;> rw [same]
  · obtain ⟨before, notDue⟩ := live_expire after
    split
    next mine =>
      subst mine
      have started := restorable.tidy.started row before
      have ahead : now < row.endTime := by
        by_contra past
        refine notDue ⟨before.upgrades.1, ?_⟩
        simp [isOverdue, before.active, started, not_lt.mp past]
      rw [expiryGroup_live after ahead, getD_none]
      exact restorable.held row before
    · exact restorable.held row before
  · split
    next mine =>
      subst mine
      by_cases any : ∃ row, Live userId db row
      · obtain ⟨row, live⟩ := any
        refine expiryGroup_due named restorable live ?_
        by_contra notDue
        exact none row (live_kept live fun due => notDue due.2)
      · have unmoved := restorable.restored fun row live => any ⟨row, live⟩
        cases moved : expiryGroup userId now (apply (.expireDue userId now) db) with
        | none => exact unmoved
        | some group => exact expiryGroup_back named tidy.remembers moved
    next foreign =>
      refine restorable.restored fun row live => none row (live_kept live fun due => foreign ?_)
      exact due.1.symm.trans live.upgrades.1

/-! Creation. -/

theorem Restorable.add (pos : 0 < now)
    (rows : after.subs = db.subs.save { row with id := db.nextSubId }) (next : after.nextSubId = db.nextSubId + 1)
    (present : (after.users.lookup user).isSome) (group : (¬Upgrades user row ∧ userGroup user after = userGroup user db) ∨
      (Upgrades user row ∧ (∀ sub, ¬Live user db sub) ∧ row.status = .active ∧ now ≤ row.endTime ∧
        Remembers orig row ∧ Fits orig (userGroup user after) row)) : Restorable orig user now after := by
  have member : ∀ sub, sub ∈ after.subs.rows ↔ sub = { row with id := db.nextSubId } ∨ sub ∈ db.subs.rows := by
    intro sub
    rw [rows, mem_save]
    refine or_congr Iff.rfl (and_iff_left_of_imp fun listed => ?_)
    exact ne_of_lt (restorable.tidy.fresh sub listed)
  have fresh : ∀ sub ∈ after.subs.rows, sub.id < after.nextSubId := by
    intro sub listed
    rw [next]
    rcases (member sub).mp listed with rfl | old
    · exact Int.lt_succ _
    · exact (restorable.tidy.fresh sub old).trans (Int.lt_succ _)
  have remembers : ∀ sub ∈ after.subs.rows, Upgrades user sub → Remembers orig sub := by
    intro sub listed named
    rcases (member sub).mp listed with rfl | old
    · rcases group with ⟨plain, _⟩ | ⟨_, _, _, _, remembers, _⟩
      · exact absurd named plain
      · exact { remembers with }
    · exact restorable.tidy.remembers sub old named
  have ended : ∀ sub, Ended user after sub → Ended user db sub := by
    intro sub ended
    rcases (member sub).mp ended.member with rfl | old
    · rcases group with ⟨plain, _⟩ | ⟨_, _, active, _⟩
      · exact absurd ended.upgrades plain
      · cases active.symm.trans ended.expired
    · exact ⟨old, ended.upgrades, ended.expired⟩
  rcases group with ⟨plain, same⟩ | ⟨upgrades, clear, active, ends, _, fits⟩
  · have lives : ∀ sub, Live user after sub ↔ Live user db sub := by
      refine fun sub => ⟨fun live => ?_, fun live => ⟨(member sub).mpr (Or.inr live.member), live.upgrades, live.active⟩⟩
      rcases (member sub).mp live.member with rfl | old
      · exact absurd live.upgrades plain
      · exact ⟨old, live.upgrades, live.active⟩
    refine ⟨restorable.tidy.of_rows fresh remembers (fun sub => (lives sub).mp) ended, present, ?_, ?_⟩
    · exact fun sub live => same ▸ restorable.held sub ((lives _).mp live)
    · exact fun none => same ▸ restorable.restored fun sub live => none sub ((lives _).mpr live)
  · have lives : ∀ sub, Live user after sub → sub = { row with id := db.nextSubId } := by
      intro sub live
      rcases (member sub).mp live.member with new | old
      · exact new
      · exact absurd ⟨old, live.upgrades, live.active⟩ (clear sub)
    refine ⟨⟨fresh, remembers, fun first second live live' => ?_, fun sub live => ?_,
      fun sub isEnded => restorable.tidy.past sub (ended sub isEnded), fun sub live isEnded isLive => ?_⟩, present,
      fun sub live => ?_, fun none => ?_⟩
    · exact (lives first live).trans (lives second live').symm
    · rw [lives sub live]
      exact lt_of_lt_of_le pos ends
    · have before := ended sub isEnded
      have past := restorable.tidy.past sub before
      have older := restorable.tidy.fresh sub before.member
      rw [lives live isLive]
      unfold endsLater
      dsimp only
      omega
    · rw [lives sub live]
      exact { fits with }
    · exact absurd ⟨(member _).mpr (Or.inl rfl), upgrades, active⟩ (none { row with id := db.nextSubId })

omit restorable

def Clear (user : Int) (clock : Clock) (plan : Plan) (upgradeGroup : String) (db : Store) : Prop :=
  upgradeGroup ≠ "" → (∀ sub, ¬Live user db sub) ∧
    ∀ endUnix, calcPlanEndTime clock plan = .ok endUnix → clock.now ≤ endUnix

def upgradeTo (userId : Int) (upgradeGroup : String) (db : Store) : Option String :=
  if upgradeGroup = "" ∨ userGroup userId db = upgradeGroup then none else some upgradeGroup

def remembered (userId : Int) (upgradeGroup : String) (db : Store) : String :=
  if upgradeGroup = "" ∨ userGroup userId db = upgradeGroup then "" else userGroup userId db

/-- The store after `CreateUserSubscriptionFromPlanTx`. -/
def created (clock : Clock) (userId : Int) (tradeNo : String) (plan : Plan) (source : Source) (endUnix : Int) (db : Store) :
    Store :=
  apply (.createSub (newSubscription clock userId tradeNo plan source endUnix
    (remembered userId (trimSpace plan.upgradeGroup) db)))
    (regroup userId (upgradeTo userId (trimSpace plan.upgradeGroup) db) db)

theorem create_store (row : Subscription) (db : Store) : (apply (.createSub row) db).subs =
      db.subs.save { row with id := db.nextSubId } ∧
    (apply (.createSub row) db).nextSubId = db.nextSubId + 1 ∧ (apply (.createSub row) db).users = db.users :=
  ⟨rfl, rfl, rfl⟩

variable {clock : Clock} {plan : Plan}

theorem restorable_created {source : Source} {endUnix : Int} (restorable : Restorable orig user clock.now db)
    (named : Named orig) (pos : 0 < clock.now) (bought : source ≠ .redemption)
    (ends : calcPlanEndTime clock plan = .ok endUnix)
    (clear : userId = user → Clear user clock plan (trimSpace plan.upgradeGroup) db) (tradeNo : String) :
    Restorable orig user clock.now (created clock userId tradeNo plan source endUnix db) := by
  obtain ⟨rows, next, users⟩ := create_store (newSubscription clock userId tradeNo plan source endUnix
    (remembered userId (trimSpace plan.upgradeGroup) db))
    (regroup userId (upgradeTo userId (trimSpace plan.upgradeGroup) db) db)
  rw [regroup_subs, regroup_nextSubId] at rows
  rw [regroup_nextSubId] at next
  have present : ((created clock userId tradeNo plan source endUnix db).users.lookup user).isSome := by
    rw [created, users]
    exact present_regroup restorable.present _ _
  have group : userGroup user (created clock userId tradeNo plan source endUnix db) = if userId = user then
      (upgradeTo userId (trimSpace plan.upgradeGroup) db).getD (userGroup user db) else userGroup user db := by
    rw [created, userGroup_congr users]
    exact userGroup_regroup restorable.present _ _
  refine restorable.add pos rows next present ?_
  by_cases mine : userId = user
  · subst mine
    rw [if_pos rfl] at group
    by_cases none : trimSpace plan.upgradeGroup = ""
    · rw [upgradeTo, if_pos (Or.inl none)] at group
      exact Or.inl ⟨fun upgrades => upgrades.2 none, group⟩
    obtain ⟨unused, ahead⟩ := clear rfl none
    have start := restorable.restored unused
    refine Or.inr ⟨⟨rfl, none⟩, unused, rfl, ahead endUnix ends, ?_, ?_⟩
    · refine ⟨?_, fun redeemed => absurd redeemed bought, fun _ => trimSpace_trimSpace _⟩
      unfold remembered
      split
      · exact Or.inl rfl
      · exact Or.inr start
    · refine ⟨fun _ => ?_, fun redeemed => absurd redeemed bought⟩
      rw [group]
      unfold upgradeTo remembered
      split
      next same =>
        exact ⟨same.resolve_left none, fun _ => start⟩
      · exact ⟨rfl, fun empty => absurd (start ▸ empty) named.nonempty⟩
  · rw [if_neg mine] at group
    exact Or.inl ⟨fun upgrades => mine upgrades.1, group⟩

theorem restorable_redeemed {endUnix : Int} (restorable : Restorable orig user clock.now db)
    (pos : 0 < clock.now) (ahead : userId = user → plan.upgradeGroup ≠ "" → clock.now ≤ endUnix)
    (clear : userId = user → plan.upgradeGroup ≠ "" → ∀ sub, ¬Live user db sub) :
    Restorable orig user clock.now (apply (.createSub (redeemedSubscription clock userId plan endUnix)) db) := by
  obtain ⟨rows, next, users⟩ := create_store (redeemedSubscription clock userId plan endUnix) db
  have group : userGroup user (apply (.createSub (redeemedSubscription clock userId plan endUnix)) db) = userGroup user db :=
    userGroup_congr users
  refine restorable.add pos rows next (by rw [users]; exact restorable.present) ?_
  by_cases upgrades : Upgrades user (redeemedSubscription clock userId plan endUnix)
  · have unused := clear upgrades.1 upgrades.2
    refine Or.inr ⟨upgrades, unused, rfl, ahead upgrades.1 upgrades.2, ⟨Or.inl rfl, fun _ => rfl, fun other => absurd rfl other⟩,
      fun other => absurd rfl other, fun _ => ?_⟩
    exact restorable.restored unused
  · exact Or.inl ⟨upgrades, group⟩

structure Alike (user : Int) (db after : Store) : Prop where
  subs : after.subs = db.subs
  nextSubId : after.nextSubId = db.nextSubId
  present : (db.users.lookup user).isSome → (after.users.lookup user).isSome
  group : userGroup user after = userGroup user db

theorem Alike.trans {first second third : Store} (start : Alike user first second) (rest : Alike user second third) :
    Alike user first third :=
  ⟨rest.subs.trans start.subs, rest.nextSubId.trans start.nextSubId, fun present => rest.present (start.present present),
    rest.group.trans start.group⟩

theorem Alike.live (alike : Alike user db after) : Live user after sub ↔ Live user db sub :=
  live_congr alike.subs

theorem Alike.clear (alike : Alike user db after) {upgradeGroup : String}
    (clear : Clear user clock plan upgradeGroup db) : Clear user clock plan upgradeGroup after := fun names =>
  ⟨fun sub live => (clear names).1 sub (alike.live.mp live), (clear names).2⟩

include restorable in
theorem Restorable.alike (alike : Alike user db after) : Restorable orig user now after where
  tidy := restorable.tidy.congr alike.subs alike.nextSubId
  present := alike.present restorable.present
  held row live := alike.group ▸ restorable.held row (alike.live.mp live)
  restored none := alike.group ▸ restorable.restored fun row live => none row (alike.live.mpr live)

theorem alike_addQuota (user userId amount : Int) (db : Store) : Alike user db (apply (.addQuota userId amount) db) := by
  let adds := fun user : Member => { user with quota := user.quota + amount }
  have kept := isSome_lookup_update adds (fun _ => rfl) db.users userId user
  have sameGroup := @map_lookup_update_same _ _ _ _ adds (fun _ => rfl) _ Member.group (fun _ => rfl) db.users userId user
  exact ⟨rfl, rfl, kept.trans, congrArg (getD · "") sameGroup⟩

theorem alike_saveOrder (user : Int) (row : SubscriptionOrder) (db : Store) : Alike user db (apply (.saveOrder row) db) :=
  ⟨rfl, rfl, id, rfl⟩

theorem alike_saveRedemption (user : Int) (row : Redemption) (db : Store) :
    Alike user db (apply (.saveRedemption row) db) := ⟨rfl, rfl, id, rfl⟩

end Stores

end Tokengine.Plans.Groups
