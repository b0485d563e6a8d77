import Mathlib.Algebra.BigOperators.Group.List.Basic
import Mathlib.Tactic.Linarith
import Tokengine.Mj.Relay

/-! What the poller returns for a Midjourney task, against what was taken for it at submit. Every
row keeps the price of its model, also when nothing was taken, and the poller returns that price
to the wallet of any task it sees fail. Its two bulk updates return nothing. -/

namespace Tokengine.Mj
open Runs List Function Option Table

def State.chargesOf (state : State) (id : Nat) : List Charge :=
  state.charges.filter fun charge => charge.task = some id

def State.refundsOf (state : State) (id : Nat) : List Refund :=
  state.refunds.filter fun refund => refund.task = id

structure Account where
  charges : List Charge
  refunds : List Refund

def State.account (state : State) (row : Midjourney) : Account :=
  ⟨state.chargesOf row.id, state.refundsOf row.id⟩

namespace Account

def takenWallet (account : Account) : Int := (account.charges.map Charge.wallet).sum
def takenToken (account : Account) : Int := (account.charges.map Charge.token).sum
def returnedWallet (account : Account) : Int := (account.refunds.map Refund.wallet).sum
def returnedToken (account : Account) : Int := (account.refunds.map Refund.token).sum

def Even (account : Account) : Prop :=
  account.returnedWallet = account.takenWallet ∧ account.returnedToken = account.takenToken

def Charged (account : Account) : Prop := account.charges ≠ []

def Refunded (account : Account) : Prop := account.refunds ≠ []

def TokenFree (account : Account) : Prop := ∀ charge ∈ account.charges, charge.token = 0

end Account

/-- The task has ended in `FAILURE`: the poller does not load it again. -/
def Ended (row : Midjourney) : Prop := row.status = "FAILURE" ∧ row.progress = "100%"

/-- No more is returned for the task than was taken, and all of it if the task ended in `FAILURE`. -/
def FairTo (state : State) (row : Midjourney) : Prop :=
  (state.account row).returnedWallet ≤ (state.account row).takenWallet ∧ (Ended row → (state.account row).Even)

def Fair (state : State) : Prop := ∀ row ∈ state.tasks.rows, FairTo state row

instance (account : Account) : Decidable account.Even := inferInstanceAs (Decidable (_ ∧ _))

instance (row : Midjourney) : Decidable (Ended row) := inferInstanceAs (Decidable (_ ∧ _))

instance (state : State) (row : Midjourney) : Decidable (FairTo state row) := inferInstanceAs (Decidable (_ ∧ (_ → _)))

instance (state : State) : Decidable (Fair state) := inferInstanceAs (Decidable (∀ row ∈ _, _))

def MayGiveUp (state : State) (row : Midjourney) : Prop :=
  0 < row.quota → (state.account row).Charged → (state.account row).Refunded ∧ (state.account row).TokenFree

def MayReturn (state : State) (task : Midjourney) (status : String) : Prop :=
  0 < task.quota → (state.account task).Charged ∧ ¬(state.account task).Refunded ∧
    (status = "FAILURE" → (state.account task).TokenFree)

/-- When a step is harmless: no negative price is charged; a task with a price is given up only if
it was not charged, or has its price back and no API token paid for it; and its price is returned
only if it was charged and not refunded yet, with `FAILURE` as its status only if no API token
paid for it. -/
def Careful (cfg : Settings) (state : State) : Label → Prop
  | .submit call mode body => ∀ job upstream, submitJob cfg state call mode body = .ok job →
      call.upstream = .ok upstream → call.stored → submitCharges job upstream → 0 ≤ job.quota
  | .swapFace call body => ∀ quota upstream, swapFaceJob state call body = .ok quota →
      call.upstream = .ok upstream → call.stored → swapFaceCharges upstream → 0 ≤ quota
  | .load => ∀ row ∈ state.tasks.rows, nullTask row → MayGiveUp state row
  | .channelMissing channelId =>
      ∀ row ∈ state.tasks.rows, (taskChannelM state channelId).contains row.mjId → MayGiveUp state row
  | .item now item => ∀ task, taskM state item.mjId = some task →
      checkMjTaskNeedUpdate task (timeOut now task item) → wins state task → itemFails (timeOut now task item) →
        MayReturn state task (timeOut now task item).status
  | .batchUpdate => True

/-! ### The books of one task -/

/-- A task is charged at most once, with its price, and each refund returns its price to the wallet. -/
structure Account.Books (account : Account) (quota : Int) : Prop where
  charged : account.charges = [] ∨
    ∃ charge, account.charges = [charge] ∧ charge.wallet = quota ∧ (charge.token = quota ∨ charge.token = 0)
  refunded : ∀ refund ∈ account.refunds, refund.wallet = quota ∧ refund.token = 0 ∧ 0 < quota

namespace Account.Books

variable {account : Account} {quota : Int}

section

variable (books : account.Books quota)
include books

theorem returnedToken : account.returnedToken = 0 := by
  apply sum_eq_zero
  intro amount member
  obtain ⟨refund, listed, rfl⟩ := mem_map.mp member
  exact (books.refunded refund listed).2.1

theorem returnedWallet : account.returnedWallet = account.refunds.length * quota := by
  obtain ⟨charges, refunds⟩ := account
  have wallets : ∀ amount ∈ refunds.map Refund.wallet, amount = quota := by
    intro amount member
    obtain ⟨refund, listed, rfl⟩ := mem_map.mp member
    exact (books.refunded refund listed).1
  calc
    _ = ((refunds.map Refund.wallet).length : Int) * quota := sum_eq_card_nsmul _ _ wallets |>.trans (nsmul_eq_mul _ _)
    _ = refunds.length * quota := by rw [length_map]

theorem unrefunded (free : ¬0 < quota) : account.refunds = [] := by
  apply eq_nil_iff_forall_not_mem.mpr
  intro refund listed
  exact free (books.refunded refund listed).2.2

theorem price_returned (refunded : account.Refunded) : quota ≤ account.returnedWallet := by
  obtain ⟨refund, rest, same⟩ := exists_cons_of_ne_nil refunded
  have pos := (books.refunded refund (same ▸ mem_cons_self)).2.2
  have nonneg : 0 ≤ (rest.length : Int) * quota := Int.mul_nonneg (Int.natCast_nonneg _) pos.le
  rw [books.returnedWallet, same, length_cons]
  push_cast
  linarith

theorem nothing_returned (none : ¬account.Refunded) : account.returnedWallet = 0 := by
  rw [books.returnedWallet, not_not.mp none]
  simp

end

theorem nothing_taken (uncharged : ¬account.Charged) : account.takenWallet = 0 ∧ account.takenToken = 0 := by
  have same : account.charges = [] := not_not.mp uncharged
  simp [takenWallet, takenToken, same]

/-- A charged task had its price taken from the wallet, and the same or nothing from the token. -/
theorem price_taken (books : account.Books quota) (charged : account.Charged) :
    account.takenWallet = quota ∧ (account.takenToken = quota ∨ account.takenToken = 0) ∧
      (account.TokenFree ↔ account.takenToken = 0) := by
  obtain none | ⟨charge, same, wallet, token⟩ := books.charged
  · exact absurd none charged
  · simp [takenWallet, takenToken, TokenFree, same, wallet, token]

theorem even_iff (books : account.Books quota) (fair : account.returnedWallet ≤ account.takenWallet) :
    account.Even ↔ (0 < quota → account.Charged → account.Refunded ∧ account.TokenFree) := by
  rw [Even, books.returnedToken]
  by_cases charged : account.Charged
  · obtain ⟨wallet, token, free⟩ := books.price_taken charged
    by_cases refunded : account.Refunded
    · have enough := books.price_returned refunded
      rw [free]
      constructor
      · exact fun even _ _ => ⟨refunded, even.2.symm⟩
      intro clear
      by_cases pos : 0 < quota
      · exact ⟨by omega, (clear pos charged).2.symm⟩
      · exact absurd (books.unrefunded pos) refunded
    · have back := books.nothing_returned refunded
      constructor
      · rintro ⟨even, _⟩ pos
        omega
      intro clear
      by_cases pos : 0 < quota
      · exact absurd (clear pos charged).1 refunded
      · constructor <;> omega
  · obtain ⟨wallet, token⟩ := nothing_taken charged
    refine ⟨fun _ _ paid => absurd paid charged, fun _ => ⟨?_, token.symm⟩⟩
    by_cases refunded : account.Refunded
    · have enough := books.price_returned refunded
      have pos : 0 < quota := not_not.mp fun free => refunded (books.unrefunded free)
      omega
    · rw [books.nothing_returned refunded, wallet]

end Account.Books

def Account.returned (account : Account) (refund : Refund) : Account := ⟨account.charges, refund :: account.refunds⟩

/-- Returning a positive price is fair exactly for a charged task that was not refunded before. -/
theorem Account.Books.returned_iff {account : Account} {quota : Int} (books : account.Books quota) {refund : Refund}
    (wallet : refund.wallet = quota) (token : refund.token = 0) (pos : 0 < quota) (ended : Prop) :
    ((account.returned refund).returnedWallet ≤ (account.returned refund).takenWallet ∧
        (ended → (account.returned refund).Even)) ↔ account.Charged ∧ ¬account.Refunded ∧ (ended → account.TokenFree) := by
  have back : (account.returned refund).returnedWallet = quota + account.returnedWallet := by
    simp [Account.returned, Account.returnedWallet, wallet]
  have backToken : (account.returned refund).returnedToken = 0 := by
    have rest := books.returnedToken
    simp only [Account.returnedToken] at rest
    simp [Account.returned, Account.returnedToken, token, rest]
  have same : (account.returned refund).takenWallet = account.takenWallet := rfl
  have sameToken : (account.returned refund).takenToken = account.takenToken := rfl
  rw [Account.Even, back, backToken, same, sameToken]
  by_cases charged : account.Charged
  · obtain ⟨taken, takenToken, free⟩ := books.price_taken charged
    by_cases refunded : account.Refunded
    · have enough := books.price_returned refunded
      constructor
      · rintro ⟨fair, _⟩
        omega
      · exact fun clear => absurd refunded clear.2.1
    · have none := books.nothing_returned refunded
      rw [free]
      constructor
      · exact fun fair => ⟨charged, refunded, fun over' => (fair.2 over').2.symm⟩
      · exact fun clear => ⟨by omega, fun over' => ⟨by omega, (clear.2.2 over').symm⟩⟩
  · obtain ⟨taken, _⟩ := Account.Books.nothing_taken charged
    constructor
    · rintro ⟨fair, _⟩
      have nonneg : 0 ≤ account.returnedWallet := by
        rw [books.returnedWallet]
        exact Int.mul_nonneg (Int.natCast_nonneg _) pos.le
      omega
    · exact fun clear => absurd clear.1 charged

/-! ### Steps -/

/-- Ids are handed out in order, every row's books are right, and the poller holds rows under their prices. -/
structure Consistent (state : State) : Prop where
  rows : ∀ row ∈ state.tasks.rows, row.id < state.nextId
  charges : ∀ charge ∈ state.charges, ∀ id, charge.task = some id → id < state.nextId
  refunds : ∀ refund ∈ state.refunds, refund.task < state.nextId
  books : ∀ row ∈ state.tasks.rows, (state.account row).Books row.quota
  held : ∀ task ∈ state.unfinished, ∃ row ∈ state.tasks.rows, row.id = task.id ∧ row.quota = task.quota

variable (batch : Bool) (quota remainQuota : Int → Int)

theorem consistent_fresh : Consistent (.fresh batch quota remainQuota) := by
  constructor <;> simp [State.fresh, Table.empty]

theorem fair_fresh : Fair (.fresh batch quota remainQuota) := by
  simp [Fair, State.fresh, Table.empty]

variable {row : Midjourney}

theorem account_congr {state state' : State} (charges : state'.charges = state.charges)
    (refunds : state'.refunds = state.refunds) {row' : Midjourney} (same : row'.id = row.id) :
    state'.account row' = state.account row := by
  simp only [State.account, State.chargesOf, State.refundsOf, charges, refunds, same]

variable {state after : State} {call : Call} {quota : Int} {charged : Bool} {task : Midjourney}

/-- What `storeAndCharge` leaves in the table and the ledger. -/
structure Submitted (call : Call) (quota : Int) (charged : Bool) (task : Midjourney) (state after : State) : Prop where
  tasks : after.tasks = if call.stored then state.tasks.save task else state.tasks
  charges : after.charges = if charged then ⟨if call.stored then some task.id else none, call.userId, call.tokenId, quota,
    if call.isPlayground then 0 else quota⟩ :: state.charges else state.charges
  refunds : after.refunds = state.refunds
  nextId : after.nextId = if call.stored then state.nextId + 1 else state.nextId
  unfinished : after.unfinished = state.unfinished

theorem storeAndCharge_submitted : Submitted call quota charged task state (storeAndCharge call quota charged task state) := by
  unfold storeAndCharge
  constructor <;> cases charged <;> cases call.stored <;> rfl

namespace Submitted

variable (submitted : Submitted call quota charged task state after)
include submitted

theorem account_other (other : row.id ≠ task.id) : after.account row = state.account row := by
  have charges : after.chargesOf row.id = state.chargesOf row.id := by
    rw [State.chargesOf, submitted.charges]
    cases charged with
    | false => rfl
    | true =>
      apply filter_cons_of_neg
      cases call.stored with
      | false => simp
      | true => simpa using other.symm
  rw [State.account, State.account, charges, State.refundsOf, submitted.refunds, State.refundsOf]

variable (consistent : Consistent state) (fresh : task.id = state.nextId)
include consistent fresh

theorem opened (stored : call.stored) : after.account task =
      ⟨if charged then [⟨some task.id, call.userId, call.tokenId, quota, if call.isPlayground then 0 else quota⟩] else [],
        []⟩ := by
  have noCharge : state.charges.filter (fun charge => charge.task = some task.id) = [] := by
    apply filter_eq_nil_iff.mpr
    intro charge listed same
    have old := consistent.charges charge listed task.id (of_decide_eq_true same)
    omega
  have noRefund : state.refunds.filter (fun refund => refund.task = task.id) = [] := by
    apply filter_eq_nil_iff.mpr
    intro refund listed same
    have old := consistent.refunds refund listed
    have same' : refund.task = task.id := of_decide_eq_true same
    omega
  rw [State.account, State.chargesOf, State.refundsOf, submitted.charges, submitted.refunds, noRefund, stored]
  cases charged <;> simpa using noCharge

theorem mem : row ∈ after.tasks.rows ↔ (call.stored ∧ row = task) ∨ row ∈ state.tasks.rows := by
  rw [submitted.tasks]
  cases call.stored with
  | false => simp
  | true =>
    have other : row ∈ state.tasks.rows → row.id ≠ task.id := by
      intro listed same
      have old := consistent.rows row listed
      omega
    simp only [if_true, mem_save, true_and]
    exact or_congr_right ⟨And.left, fun listed => ⟨listed, other listed⟩⟩

theorem keeps (price : task.quota = quota) : Consistent after := by
  have later : state.nextId ≤ after.nextId := by
    rw [submitted.nextId]
    split <;> omega
  have opened : call.stored → task.id < after.nextId := by
    intro stored
    rw [submitted.nextId, if_pos stored, fresh]
    omega
  refine ⟨?_, ?_, ?_, ?_, ?_⟩
  · intro row listed
    obtain ⟨stored, rfl⟩ | old := (submitted.mem consistent fresh).mp listed
    · exact opened stored
    · exact (consistent.rows row old).trans_le later
  · intro charge listed id named
    rw [submitted.charges] at listed
    cases charged with
    | false => exact (consistent.charges charge listed id named).trans_le later
    | true =>
      obtain rfl | old := mem_cons.mp listed
      · by_cases stored : call.stored
        · simp only [stored, if_true, Option.some.injEq] at named
          exact named ▸ opened stored
        · simp [stored] at named
      · exact (consistent.charges charge old id named).trans_le later
  · intro refund listed
    rw [submitted.refunds] at listed
    exact (consistent.refunds refund listed).trans_le later
  · intro row listed
    obtain ⟨stored, rfl⟩ | old := (submitted.mem consistent fresh).mp listed
    · rw [submitted.opened consistent fresh stored]
      refine ⟨?_, fun refund none => nomatch none⟩
      cases charged with
      | false => exact Or.inl rfl
      | true =>
        refine Or.inr ⟨_, rfl, price.symm, ?_⟩
        cases call.isPlayground with
        | false => exact Or.inl price.symm
        | true => exact Or.inr rfl
    · have before := consistent.rows row old
      rw [submitted.account_other (by omega)]
      exact consistent.books row old
  · intro held listed
    rw [submitted.unfinished] at listed
    obtain ⟨row, old, same⟩ := consistent.held held listed
    exact ⟨row, (submitted.mem consistent fresh).mpr (Or.inr old), same⟩

theorem fair (fair : Fair state) (running : ¬Ended task) : Fair after ↔ (call.stored → charged → 0 ≤ quota) := by
  have openedFair : call.stored → (FairTo after task ↔ (charged → 0 ≤ quota)) := by
    intro stored
    rw [FairTo, submitted.opened consistent fresh stored]
    cases charged <;> simp [Account.returnedWallet, Account.takenWallet, running]
  constructor
  · intro after stored
    exact (openedFair stored).mp (after task ((submitted.mem consistent fresh).mpr (Or.inl ⟨stored, rfl⟩)))
  intro clear row listed
  obtain ⟨stored, rfl⟩ | old := (submitted.mem consistent fresh).mp listed
  · exact (openedFair stored).mpr (clear stored)
  · have before := consistent.rows row old
    rw [FairTo, submitted.account_other (by omega)]
    exact fair row old

end Submitted

theorem describeExisting_spec (now : Int) (resp : Response) {task : Midjourney} (running : task.progress ≠ "100%") :
    (describeExisting now resp task).1.id = task.id ∧ (describeExisting now resp task).1.quota = task.quota ∧
      ¬Ended (describeExisting now resp task).1 := by
  unfold describeExisting
  split
  next status _ =>
    by_cases success : status = "SUCCESS"
    · simp [success, Ended]
    · simp [success, Ended, running]
  · simp [Ended, running]

theorem completeUpload_spec (action : String) {known : Midjourney × Int} (running : ¬Ended known.1) :
    (completeUpload action known).1.id = known.1.id ∧ (completeUpload action known).1.quota = known.1.quota ∧
      ¬Ended (completeUpload action known).1 := by
  unfold completeUpload
  split
  · simp [Ended]
  · exact ⟨rfl, rfl, running⟩

/-- A new row has the price of its model, whatever the upstream answered, and has not ended in `FAILURE`. -/
theorem submittedTask_spec (call : Call) (job : Job) (resp : Response) (id : Nat) :
    (submittedTask call job resp id).1.id = id ∧ (submittedTask call job resp id).1.quota = job.quota ∧
      ¬Ended (submittedTask call job resp id).1 := by
  have running : (newTask call job resp id).progress ≠ "100%" := by simp [newTask]
  unfold submittedTask
  by_cases existing : resp.code = 21
  · rw [if_pos existing]
    obtain ⟨sameId, sameQuota, open'⟩ := describeExisting_spec call.now resp running
    obtain ⟨sameId', sameQuota', open''⟩ := completeUpload_spec job.request.action open'
    exact ⟨sameId'.trans sameId, sameQuota'.trans sameQuota, open''⟩
  · rw [if_neg existing]
    exact completeUpload_spec job.request.action fun ended => running ended.2

theorem swapFaceTask_running (call : Call) (quota : Int) (resp : Response) (id : Nat) :
    ¬Ended (swapFaceTask call quota resp id) := by
  simp [swapFaceTask, Ended]

section GiveUp

variable {state' : State} {affected : Midjourney → Bool} {change : Midjourney → Midjourney}
  (mapped : state'.tasks.rows = state.tasks.rows.map fun row => if affected row then change row else row)
  (consistent : Consistent state) (charges : state'.charges = state.charges) (refunds : state'.refunds = state.refunds)
  (sameId : ∀ row, (change row).id = row.id)

include mapped sameId in
theorem mem_giveUp (listed : row ∈ state'.tasks.rows) :
    ∃ old ∈ state.tasks.rows, row = (if affected old then change old else old) ∧ row.id = old.id := by
  rw [mapped] at listed
  obtain ⟨old, before, rfl⟩ := mem_map.mp listed
  refine ⟨old, before, rfl, ?_⟩
  split
  · exact sameId old
  · rfl

include mapped consistent charges refunds sameId in
theorem consistent_giveUp (nextId : state'.nextId = state.nextId) (sameQuota : ∀ row, (change row).quota = row.quota)
    (held : ∀ task ∈ state'.unfinished, ∃ row ∈ state.tasks.rows, row.id = task.id ∧ row.quota = task.quota) :
    Consistent state' := by
  have quotas : ∀ old, (if affected old then change old else old).quota = old.quota := by
    intro old
    split
    · exact sameQuota old
    · rfl
  refine ⟨?_, ?_, ?_, ?_, ?_⟩
  · intro row listed
    obtain ⟨old, before, _, same⟩ := mem_giveUp mapped sameId listed
    rw [same, nextId]
    exact consistent.rows old before
  · rw [charges, nextId]
    exact consistent.charges
  · rw [refunds, nextId]
    exact consistent.refunds
  · intro row listed
    obtain ⟨old, before, changed, same⟩ := mem_giveUp mapped sameId listed
    rw [account_congr charges refunds same, changed, quotas]
    exact consistent.books old before
  · intro task listed
    obtain ⟨row, before, same, price⟩ := held task listed
    refine ⟨if affected row then change row else row, ?_, ?_, (quotas row).trans price⟩
    · rw [mapped]
      exact mem_map_of_mem before
    · split
      · exact (sameId row).trans same
      · exact same

include mapped consistent charges refunds sameId in
theorem fair_giveUp (fair : Fair state) (ends : ∀ row, Ended (change row)) :
    (∀ row ∈ state.tasks.rows, affected row → MayGiveUp state row) ↔ Fair state' := by
  constructor
  · intro clear row listed
    obtain ⟨old, before, changed, same⟩ := mem_giveUp mapped sameId listed
    rw [FairTo, account_congr charges refunds same]
    refine ⟨(fair old before).1, fun ended => ?_⟩
    by_cases hit : affected old
    · exact ((consistent.books old before).even_iff (fair old before).1).mpr (clear old before hit)
    · rw [if_neg hit] at changed
      exact (fair old before).2 (changed ▸ ended)
  · intro after row before hit
    have listed : change row ∈ state'.tasks.rows := by
      rw [mapped]
      exact mem_map.mpr ⟨row, before, if_pos hit⟩
    have even := (after _ listed).2 (ends row)
    rw [account_congr charges refunds (sameId row)] at even
    exact ((consistent.books row before).even_iff (fair row before).1).mp even

end GiveUp

section Item

theorem updatedTask_id (item : Item) : (updatedTask task item).id = task.id := by
  unfold updatedTask
  split <;> rfl

theorem updatedTask_quota (item : Item) : (updatedTask task item).quota = task.quota := by
  unfold updatedTask
  split <;> rfl

theorem ended_updatedTask (item : Item) : Ended (updatedTask task item) ↔ itemFails item ∧ item.status = "FAILURE" := by
  unfold updatedTask Ended
  by_cases fails : itemFails item
  · simp [fails, copyItem]
  have both : ¬(item.progress = "100%" ∧ item.status = "FAILURE") := by
    rintro ⟨progress, status⟩
    exact fails (by simp [itemFails, progress, status])
  simp only [fails, copyItem]
  simpa [and_comm] using both

theorem taskM_mem {mjId : String} (found : taskM state mjId = some task) : task ∈ state.unfinished :=
  mem_reverse.mp (mem_of_find?_eq_some found)

theorem row_unique {other : Midjourney} (listed : row ∈ state.tasks.rows) (listed' : other ∈ state.tasks.rows)
    (same : row.id = other.id) : row = other :=
  inj_on_of_nodup_map state.tasks.distinct listed listed' same

structure Written (state state' : State) (task updated : Midjourney) : Prop where
  tasks : state'.tasks = state.tasks.save updated
  charges : state'.charges = state.charges
  nextId : state'.nextId = state.nextId
  unfinished : state'.unfinished = (remember updated state).unfinished
  refunds : ∃ returned : List Refund, state'.refunds = returned ++ state.refunds ∧
    ∀ refund ∈ returned, refund.task = task.id ∧ refund.wallet = task.quota ∧ refund.token = 0 ∧ 0 < task.quota
  id : updated.id = task.id
  quota : updated.quota = task.quota

variable {state' : State} {updated : Midjourney}

theorem held_remember {rows : List Midjourney} (id : updated.id = task.id) (quota : updated.quota = task.quota)
    (kept : ∀ held ∈ state.unfinished, ∃ row ∈ rows, row.id = held.id ∧ row.quota = held.quota)
    (own : ∃ row ∈ rows, row.id = task.id ∧ row.quota = task.quota) :
    ∀ held ∈ (remember updated state).unfinished, ∃ row ∈ rows, row.id = held.id ∧ row.quota = held.quota := by
  intro held listed
  obtain ⟨old, before, rfl⟩ := mem_map.mp listed
  split
  · rw [id, quota]
    exact own
  · exact kept old before

namespace Written

variable (written : Written state state' task updated)
include written

theorem account_other (other : row.id ≠ task.id) : state'.account row = state.account row := by
  obtain ⟨returned, refunds, own⟩ := written.refunds
  have none : returned.filter (fun refund => refund.task = row.id) = [] := by
    apply filter_eq_nil_iff.mpr
    intro refund listed same
    exact other ((of_decide_eq_true same).symm.trans (own refund listed).1)
  simp [State.account, State.chargesOf, State.refundsOf, written.charges, refunds, none]

theorem mem : row ∈ state'.tasks.rows ↔ row = updated ∨ (row ∈ state.tasks.rows ∧ row.id ≠ task.id) := by
  rw [written.tasks, mem_save, written.id]

theorem fair (fair : Fair state) : Fair state' ↔ FairTo state' updated := by
  constructor
  · exact fun after => after updated (written.mem.mpr (Or.inl rfl))
  intro own row listed
  obtain rfl | ⟨before, other⟩ := written.mem.mp listed
  · exact own
  · rw [FairTo, written.account_other other]
    exact fair row before

theorem consistent (consistent : Consistent state) (own : ∃ row ∈ state.tasks.rows, row.id = task.id ∧ row.quota = task.quota) :
    Consistent state' := by
  obtain ⟨row, present, same, price⟩ := own
  obtain ⟨returned, refunds, paid⟩ := written.refunds
  have old := consistent.rows row present
  have booked := consistent.books row present
  refine ⟨?_, ?_, ?_, ?_, ?_⟩
  · intro other listed
    rw [written.nextId]
    obtain rfl | ⟨before, _⟩ := written.mem.mp listed
    · rw [written.id, ← same]
      exact old
    · exact consistent.rows other before
  · rw [written.charges, written.nextId]
    exact consistent.charges
  · intro refund listed
    rw [refunds] at listed
    rw [written.nextId]
    obtain new | before := mem_append.mp listed
    · rw [(paid refund new).1, ← same]
      exact old
    · exact consistent.refunds refund before
  · intro other listed
    obtain rfl | ⟨before, ne⟩ := written.mem.mp listed
    · rw [written.quota]
      constructor
      · have charged := booked.charged
        simp only [State.account, State.chargesOf, same, price] at charged
        simpa only [State.account, State.chargesOf, written.charges, written.id] using charged
      · intro refund member
        obtain ⟨member, named⟩ := List.mem_filter.mp member
        rw [refunds] at member
        obtain new | earlier := mem_append.mp member
        · exact (paid refund new).2
        rw [← price]
        apply booked.refunded refund
        rw [written.id, ← same] at named
        exact List.mem_filter.mpr ⟨earlier, named⟩
    · rw [written.account_other ne]
      exact consistent.books other before
  · rw [written.unfinished]
    apply held_remember written.id written.quota
    · intro held listed
      obtain ⟨other, before, same', price'⟩ := consistent.held held listed
      by_cases own : other.id = task.id
      · refine ⟨updated, written.mem.mpr (Or.inl rfl), ?_, ?_⟩
        · rw [written.id, ← own, same']
        · have unique : other = row := row_unique before present (own.trans same.symm)
          rw [written.quota, ← price, ← unique, price']
      · exact ⟨other, written.mem.mpr (Or.inr ⟨before, own⟩), same', price'⟩
    · exact ⟨updated, written.mem.mpr (Or.inl rfl), written.id, written.quota⟩

end Written

variable {now : Int} {item seen : Item} (timed : timeOut now task item = seen)
include timed

/-- An item that changes nothing, or whose row was moved on meanwhile, leaves rows and ledger alone. -/
theorem applyItem_kept (skipped : ¬(checkMjTaskNeedUpdate task seen ∧ wins state task)) :
    ∃ unfinished, applyItem now task item state = { state with unfinished } ∧ (unfinished = state.unfinished ∨
        unfinished = (remember (updatedTask task seen) state).unfinished) := by
  subst timed
  unfold applyItem
  by_cases needed : checkMjTaskNeedUpdate task (timeOut now task item)
  · have lost : ¬wins state task := fun won => skipped ⟨needed, won⟩
    rw [if_pos needed, if_neg lost]
    exact ⟨_, rfl, Or.inr rfl⟩
  · rw [if_neg needed]
    exact ⟨_, rfl, Or.inl rfl⟩

section Won

variable (needed : checkMjTaskNeedUpdate task seen) (won : wins state task)
include needed won

theorem applyItem_won : applyItem now task item state =
    (if itemFails seen then returnQuota (updatedTask task seen) else id)
      { remember (updatedTask task seen) state with tasks := state.tasks.save (updatedTask task seen) } := by
  subst timed
  unfold applyItem
  simp only [if_pos needed, if_pos won]
  split <;> rfl

theorem applyItem_returned (fails : itemFails seen) (pos : 0 < task.quota) :
    (applyItem now task item state).refunds = ⟨task.id, (updatedTask task seen).userId, task.quota, 0⟩ :: state.refunds := by
  rw [applyItem_won timed needed won, if_pos fails, returnQuota, updatedTask_quota, if_pos pos, updatedTask_id]
  rfl

theorem applyItem_unreturned (kept : ¬(itemFails seen ∧ 0 < task.quota)) :
    (applyItem now task item state).refunds = state.refunds := by
  rw [applyItem_won timed needed won]
  by_cases fails : itemFails seen
  · rw [if_pos fails, returnQuota, updatedTask_quota, if_neg fun pos => kept ⟨fails, pos⟩]
    rfl
  · rw [if_neg fails]
    rfl

theorem applyItem_written : Written state (applyItem now task item state) task (updatedTask task seen) := by
  have refunds : ∃ returned : List Refund, (applyItem now task item state).refunds = returned ++ state.refunds ∧
      ∀ refund ∈ returned, refund.task = task.id ∧ refund.wallet = task.quota ∧ refund.token = 0 ∧ 0 < task.quota := by
    by_cases paid : itemFails seen ∧ 0 < task.quota
    · refine ⟨[_], applyItem_returned timed needed won paid.1 paid.2, fun refund listed => ?_⟩
      cases mem_singleton.mp listed
      exact ⟨rfl, rfl, rfl, paid.2⟩
    · exact ⟨[], applyItem_unreturned timed needed won paid, fun refund listed => nomatch listed⟩
  have frame : (applyItem now task item state).tasks = state.tasks.save (updatedTask task seen) ∧
      (applyItem now task item state).charges = state.charges ∧
      (applyItem now task item state).nextId = state.nextId ∧
      (applyItem now task item state).unfinished = (remember (updatedTask task seen) state).unfinished := by
    rw [applyItem_won timed needed won]
    by_cases fails : itemFails seen
    · rw [if_pos fails, returnQuota]
      split <;> exact ⟨rfl, rfl, rfl, rfl⟩
    · rw [if_neg fails]
      exact ⟨rfl, rfl, rfl, rfl⟩
  exact ⟨frame.1, frame.2.1, frame.2.2.1, frame.2.2.2, refunds, updatedTask_id _, updatedTask_quota _⟩

theorem fair_applyItem_won (consistent : Consistent state) (fair : Fair state)
    (own : ∃ row ∈ state.tasks.rows, row.id = task.id ∧ row.quota = task.quota) :
    (itemFails seen → MayReturn state task seen.status) ↔ Fair (applyItem now task item state) := by
  have written := applyItem_written timed needed won
  obtain ⟨row, present, same, price⟩ := own
  have sameAccount : state.account task = state.account row := account_congr rfl rfl same.symm
  have booked : (state.account task).Books task.quota := by
    rw [sameAccount, ← price]
    exact consistent.books row present
  have owed : (state.account task).returnedWallet ≤ (state.account task).takenWallet := by
    rw [sameAccount]
    exact (fair row present).1
  have kept (unpaid : ¬(itemFails seen ∧ 0 < task.quota)) :
      (applyItem now task item state).account (updatedTask task seen) = state.account task :=
    account_congr written.charges (applyItem_unreturned timed needed won unpaid) written.id
  rw [written.fair fair, FairTo, ended_updatedTask]
  by_cases fails : itemFails seen
  · by_cases pos : 0 < task.quota
    · have refunds := applyItem_returned timed needed won fails pos
      have account : (applyItem now task item state).account (updatedTask task seen) =
          (state.account task).returned ⟨task.id, (updatedTask task seen).userId, task.quota, 0⟩ := by
        simp [State.account, Account.returned, State.chargesOf, State.refundsOf, written.charges, written.id, refunds]
      rw [account, booked.returned_iff rfl rfl pos]
      simp [fails, MayReturn, pos]
    · have even := (booked.even_iff owed).mpr fun paid => absurd paid pos
      rw [kept fun paid => pos paid.2]
      exact ⟨fun _ => ⟨owed, fun _ => even⟩, fun _ _ paid => absurd paid pos⟩
  · rw [kept fun paid => fails paid.1]
    exact ⟨fun _ => ⟨owed, fun ended => absurd ended.1 fails⟩, fun _ fails' => absurd fails' fails⟩

end Won

end Item

/-! ### Runs -/

section Steps

variable {cfg : Settings} {s t : State}

theorem consistent_submit (consistent : Consistent s) (call : Call) (mode : RelayMode) (body : Option Request) :
    Consistent (relayMidjourneySubmit cfg call mode body s).1 := by
  unfold relayMidjourneySubmit
  split
  · exact consistent
  next job _ =>
  split
  · exact consistent
  next upstream _ =>
    obtain ⟨fresh, price, _⟩ := submittedTask_spec call job upstream.response s.nextId
    exact storeAndCharge_submitted.keeps consistent fresh price

theorem consistent_swapFace (consistent : Consistent s) (call : Call) (body : Option SwapFaceRequest) :
    Consistent (relaySwapFace call body s).1 := by
  unfold relaySwapFace
  split
  · exact consistent
  · split
    · exact consistent
    · exact storeAndCharge_submitted.keeps consistent rfl rfl

theorem loadTasks_rows (s : State) : (loadTasks s).tasks.rows =
    s.tasks.rows.map fun row => if nullTask row then { row with status := "FAILURE", progress := "100%" } else row := rfl

theorem failChannel_rows (channelId : Int) (s : State) : (failChannel channelId s).tasks.rows =
    s.tasks.rows.map fun row => if (taskChannelM s channelId).contains row.mjId then
        { row with failReason := "获取渠道信息失败，请联系管理员，渠道ID：" ++ toString channelId, status := "FAILURE", progress := "100%" }
      else row := rfl

theorem consistent_load (consistent : Consistent s) : Consistent (loadTasks s) := by
  apply consistent_giveUp (loadTasks_rows s) consistent rfl rfl (fun _ => rfl) rfl (fun _ => rfl)
  intro task listed
  exact ⟨task, (List.mem_filter.mp listed).1, rfl, rfl⟩

theorem consistent_failChannel (consistent : Consistent s) (channelId : Int) : Consistent (failChannel channelId s) :=
  consistent_giveUp (failChannel_rows channelId s) consistent rfl rfl (fun _ => rfl) rfl (fun _ => rfl) consistent.held

theorem consistent_item (consistent : Consistent s) {now : Int} {item : Item} (taken : updateItem now item s = some t) :
    Consistent t := by
  obtain ⟨task, found, rfl⟩ := map_eq_some_iff.mp taken
  have own := consistent.held task (taskM_mem found)
  by_cases writes : checkMjTaskNeedUpdate task (timeOut now task item) ∧ wins s task
  · exact (applyItem_written rfl writes.1 writes.2).consistent consistent own
  obtain ⟨unfinished, same, held⟩ := applyItem_kept rfl writes
  rw [same]
  refine ⟨consistent.rows, consistent.charges, consistent.refunds, consistent.books, ?_⟩
  obtain rfl | rfl := held
  · exact consistent.held
  · exact held_remember (updatedTask_id _) (updatedTask_quota _) consistent.held own

theorem consistent_step (s : State) (label : Label) (t : State) (consistent : Consistent s)
    (taken : step cfg s label = some t) : Consistent t := by
  cases label with
  | submit call mode body => exact Option.some.inj taken ▸ consistent_submit consistent call mode body
  | swapFace call body => exact Option.some.inj taken ▸ consistent_swapFace consistent call body
  | load => exact Option.some.inj taken ▸ consistent_load consistent
  | channelMissing channelId => exact Option.some.inj taken ▸ consistent_failChannel consistent channelId
  | item now item => exact consistent_item consistent taken
  | batchUpdate =>
    cases Option.some.inj taken
    exact ⟨consistent.rows, consistent.charges, consistent.refunds, consistent.books, consistent.held⟩

variable (consistent : Consistent s) (fair : Fair s)
include consistent fair

theorem fair_submit (call : Call) (mode : RelayMode) (body : Option Request) :
    Careful cfg s (.submit call mode body) ↔ Fair (relayMidjourneySubmit cfg call mode body s).1 := by
  unfold relayMidjourneySubmit
  split
  next refused => simp [Careful, refused, fair]
  next job accepted =>
  split
  next failed => simp [Careful, failed, fair]
  next upstream answered =>
    obtain ⟨fresh, _, running⟩ := submittedTask_spec call job upstream.response s.nextId
    rw [storeAndCharge_submitted.fair consistent fresh fair running]
    simp [Careful, accepted, answered]

theorem fair_swapFace (call : Call) (body : Option SwapFaceRequest) :
    Careful cfg s (.swapFace call body) ↔ Fair (relaySwapFace call body s).1 := by
  unfold relaySwapFace
  split
  next refused => simp [Careful, refused, fair]
  next accepted =>
  split
  next failed => simp [Careful, failed, fair]
  next answered =>
    rw [storeAndCharge_submitted.fair consistent rfl fair (swapFaceTask_running _ _ _ _)]
    simp [Careful, accepted, answered]

theorem fair_item {now : Int} {item : Item} (taken : updateItem now item s = some t) :
    Careful cfg s (.item now item) ↔ Fair t := by
  obtain ⟨task, found, rfl⟩ := map_eq_some_iff.mp taken
  have own := consistent.held task (taskM_mem found)
  simp only [Careful, found, Option.some.injEq, forall_eq']
  by_cases writes : checkMjTaskNeedUpdate task (timeOut now task item) ∧ wins s task
  · rw [← fair_applyItem_won rfl writes.1 writes.2 consistent fair own]
    simp only [writes.1, writes.2, forall_const]
  · obtain ⟨unfinished, same, _⟩ := applyItem_kept rfl writes
    rw [same]
    exact ⟨fun _ => fair, fun _ needed won => absurd ⟨needed, won⟩ writes⟩

theorem fair_step {label : Label} (taken : step cfg s label = some t) : Careful cfg s label ↔ Fair t := by
  cases label with
  | submit call mode body => exact Option.some.inj taken ▸ fair_submit consistent fair call mode body
  | swapFace call body => exact Option.some.inj taken ▸ fair_swapFace consistent fair call body
  | load =>
    cases Option.some.inj taken
    exact fair_giveUp (loadTasks_rows s) consistent rfl rfl (fun _ => rfl) fair (fun _ => ⟨rfl, rfl⟩)
  | channelMissing channelId =>
    cases Option.some.inj taken
    exact fair_giveUp (failChannel_rows channelId s) consistent rfl rfl (fun _ => rfl) fair (fun _ => ⟨rfl, rfl⟩)
  | item now item => exact fair_item consistent fair taken
  | batchUpdate =>
    cases Option.some.inj taken
    exact iff_of_true trivial fair

end Steps

/-! ### The ledger and the balances -/

/-- What the columns hold or will hold once the collected amounts are written. -/
def Balanced (quota remainQuota : Int → Int) (state : State) : Prop :=
  (∀ user, state.quota user + state.collected user + ((state.charges.filter (·.userId = user)).map Charge.wallet).sum =
      quota user + ((state.refunds.filter (·.userId = user)).map Refund.wallet).sum) ∧
    ∀ token, state.remainQuota token + state.collectedTokens token + ((state.charges.filter (·.tokenId = token)).map Charge.token).sum =
      remainQuota token

variable {cfg : Settings}

section Balances

variable {quota remainQuota : Int → Int}

section

variable (balanced : Balanced quota remainQuota state)
include balanced

theorem balanced_postConsumeQuota (call : Call) (task : Option Nat) (amount : Int) :
    Balanced quota remainQuota (postConsumeQuota call task amount state) := by
  constructor
  · intro user
    have before := balanced.1 user
    simp only [postConsumeQuota, addTokenQuota, addUserQuota, addTo, filter_cons]
    grind
  · intro token
    have before := balanced.2 token
    simp only [postConsumeQuota, addTokenQuota, addUserQuota, addTo, filter_cons]
    grind

theorem balanced_returnQuota (task : Midjourney) : Balanced quota remainQuota (returnQuota task state) := by
  unfold returnQuota
  split
  · refine ⟨fun user => ?_, balanced.2⟩
    have before := balanced.1 user
    simp only [addUserQuota, addTo, filter_cons]
    grind
  · exact balanced

theorem balanced_storeAndCharge (call : Call) (amount : Int) (charged : Bool) (task : Midjourney) :
    Balanced quota remainQuota (storeAndCharge call amount charged task state) := by
  have inserted : Balanced quota remainQuota (if call.stored then insertTask state task else state) := by
    split <;> exact balanced
  unfold storeAndCharge
  dsimp only
  split
  · exact balanced_postConsumeQuota inserted call _ amount
  · exact inserted

theorem balanced_applyItem (now : Int) (task : Midjourney) (item : Item) :
    Balanced quota remainQuota (applyItem now task item state) := by
  by_cases writes : checkMjTaskNeedUpdate task (timeOut now task item) ∧ wins state task
  · rw [applyItem_won rfl writes.1 writes.2]
    split
    · apply balanced_returnQuota
      exact balanced
    · exact balanced
  · obtain ⟨unfinished, same, _⟩ := applyItem_kept rfl writes
    rw [same]
    exact balanced

end

theorem balanced_step (s : State) (label : Label) (t : State)
    (balanced : Balanced quota remainQuota s) (_ : True) (taken : step cfg s label = some t) :
    Balanced quota remainQuota t := by
  cases label with
  | submit call mode body =>
    cases Option.some.inj taken
    unfold relayMidjourneySubmit
    split
    · exact balanced
    split
    · exact balanced
    · exact balanced_storeAndCharge balanced call _ _ _
  | swapFace call body =>
    cases Option.some.inj taken
    unfold relaySwapFace
    split
    · exact balanced
    split
    · exact balanced
    · exact balanced_storeAndCharge balanced call _ _ _
  | load | channelMissing => exact Option.some.inj taken ▸ balanced
  | item now item =>
    obtain ⟨task, _, rfl⟩ := map_eq_some_iff.mp taken
    exact balanced_applyItem balanced now task item
  | batchUpdate =>
    cases Option.some.inj taken
    refine ⟨fun user => ?_, fun token => ?_⟩
    · have before := balanced.1 user
      simpa [batchUpdate] using before
    · have before := balanced.2 token
      simpa [batchUpdate] using before

theorem balanced_run {labels : List Label} {t : State}
    (run : exec (step cfg) (.fresh batch quota remainQuota) labels = some t) : Balanced quota remainQuota t := by
  apply exec_invariant balanced_step _ (guarded_always (fun _ _ => trivial) labels _) run
  constructor <;> simp [State.fresh]

end Balances

/-! ### Main result -/

/-- An item of a task that the poller does not hold ends the process, with nothing to be careful about. -/
theorem careful_stuck (s : State) (label : Label) (crashed : step cfg s label = none) : Careful cfg s label := by
  cases label with
  | item now item =>
    intro task found
    have missing := map_eq_none_iff.mp crashed
    cases found.symm.trans missing
  | _ => cases crashed

/-- From any balances, whatever is submitted and whatever the upstream answers: the refunds of all
tasks stay within their charges, and make up for them on `FAILURE`, exactly in the runs of careful steps. -/
theorem refunds_within_charges (cfg : Settings) (batch : Bool) (quota remainQuota : Int → Int) (labels : List Label) :
    Guarded (step cfg) (Careful cfg) (.fresh batch quota remainQuota) labels ↔
      Along (step cfg) Fair (.fresh batch quota remainQuota) labels :=
  guarded_iff_along consistent_step (fun _ _ _ consistent fair taken => fair_step consistent fair taken) careful_stuck
    (consistent_fresh batch quota remainQuota) (fair_fresh batch quota remainQuota) labels

def openChannels : Settings := ⟨true, fun _ => some true⟩

def imagineCall (code : Int) : Call :=
  { userId := 7, tokenId := 3, isPlayground := false, channelId := 1, price := .ok 100,
    upstream := .ok ⟨200, ⟨code, "", none, "14001929738841620"⟩, ""⟩, stored := true, startTime := 0, now := 0 }

def failedRound : Round :=
  { now := 1000, cached := fun _ => true,
    items := fun _ => [{ mjId := "14001929738841620", status := "FAILURE", progress := "100%", failReason := "queue" }] }

def submitThenFail (code : Int) : Option State :=
  updateMidjourneyTaskBulk openChannels failedRound
    (relayMidjourneySubmit openChannels (imagineCall code) .imagine (some { prompt := "a cat" })
      (.fresh false (fun _ => 1000) (fun _ => 1000))).1

/-- A task the upstream's full queue rejected costs nothing and brings its price when the poller sees it
fail; a task that was paid for gets the wallet refunded and the API token not. -/
theorem refund_without_charge : (∃ t, submitThenFail 23 = some t ∧ t.charges = [] ∧ t.quota 7 = 1100 ∧ ¬Fair t) ∧
      ∃ t, submitThenFail 1 = some t ∧ t.quota 7 = 1000 ∧ t.remainQuota 3 = 900 ∧ ¬Fair t :=
  ⟨exists_end (by decide +kernel), exists_end (by decide +kernel)⟩

end Tokengine.Mj
